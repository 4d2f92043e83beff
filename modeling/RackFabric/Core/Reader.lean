import RackFabric.Core.Bytes
import RackFabric.Core.LittleEndian
import RackFabric.Foundation.Codec

/-!
The bounds-checked reader of the canonical encoding, as the bytes that remain, and the CRC-32C checksum. Every
primitive reads back what the writer's primitive of the same name wrote.
-/

namespace RackFabric

open Foundation

/-- A read that may run out of bytes or find a value out of bounds. -/
abbrev Reading := StateT (List UInt8) Option

namespace ByteReader

def rawBytes (n : Nat) : Reading (List UInt8) := fun remaining =>
  if remaining.length < n then none else some (remaining.take n, remaining.drop n)

def u8 : Reading UInt8 := fun remaining =>
  match remaining with
  | [] => none
  | byte :: rest => some (byte, rest)

def u16 : Reading UInt16 := do
  let data ← rawBytes 2
  pure (UInt16.ofNat (leNat data))

def u32 : Reading UInt32 := do
  let data ← rawBytes 4
  pure (UInt32.ofNat (leNat data))

def u64 : Reading UInt64 := do
  let data ← rawBytes 8
  pure (UInt64.ofNat (leNat data))

def boolean : Reading Bool := do
  let v ← u8
  if v > 1 then failure else pure (v != 0)

/-- A length prefix, checked against both the bound and the bytes that are there. -/
def blob (maxLen : Nat) : Reading (List UInt8) := do
  let len ← u32
  if len.toNat > maxLen then failure else rawBytes len.toNat

def text (maxLen : Nat) : Reading Text := do
  let view ← blob maxLen
  if !isValidUtf8 view then failure else pure view

def digest : Reading Digest := fun remaining =>
  if enough : 32 ≤ remaining.length then
    some (⟨remaining.take 32, by rw [List.length_take]; omega⟩, remaining.drop 32)
  else none

def count (maxCount : Nat) : Reading Nat := do
  let n ← u32
  if n.toNat > maxCount then failure else pure n.toNat

end ByteReader

/-- The CRC-32C table entry of one byte. -/
def crc32cEntry (index : UInt8) : UInt32 :=
  (List.range 8).foldl
    (fun crc _ => if crc &&& 1 != 0 then (crc >>> 1) ^^^ 0x82F63B78 else crc >>> 1) index.toUInt32

def crc32cExtend (seed : UInt32) (data : List UInt8) : UInt32 :=
  ~~~(data.foldl (fun crc byte => crc32cEntry ((crc ^^^ byte.toUInt32) &&& 0xFF).toUInt8 ^^^ (crc >>> 8)) (~~~seed))

def crc32c (data : List UInt8) : UInt32 :=
  crc32cExtend 0 data

example : crc32c (text "123456789") = 0xE3069283 := by decide +kernel

/-- The bytes `store_u32` puts down. -/
def le32 (value : UInt32) : List UInt8 :=
  (List.range 4).map fun i => (value >>> UInt32.ofNat (8 * i)).toUInt8

def le16 (value : UInt16) : List UInt8 :=
  [value.toUInt8, (value >>> 8).toUInt8]

@[simp] theorem length_le32 (value : UInt32) : (le32 value).length = 4 := by
  simp [le32]

@[simp] theorem length_le16 (value : UInt16) : (le16 value).length = 2 := rfl

private theorem toNat_byte32 (value : UInt32) {shift : Nat} (small : shift < 32) :
    (value >>> UInt32.ofNat shift).toUInt8.toNat = value.toNat / 2 ^ shift % 256 := by
  have exact_ : (UInt32.ofNat shift).toNat = shift := by
    rw [UInt32.toNat_ofNat']
    exact Nat.mod_eq_of_lt (by omega)
  rw [UInt32.toNat_toUInt8, UInt32.toNat_shiftRight, exact_, Nat.mod_eq_of_lt small, Nat.shiftRight_eq_div_pow]

theorem leNat_le32 (value : UInt32) : leNat (le32 value) = value.toNat := by
  have bound := value.toNat_lt
  have bytes : le32 value = [(value >>> UInt32.ofNat 0).toUInt8, (value >>> UInt32.ofNat 8).toUInt8,
      (value >>> UInt32.ofNat 16).toUInt8, (value >>> UInt32.ofNat 24).toUInt8] :=
    rfl
  rw [bytes]
  simp only [leNat, toNat_byte32 value (show 0 < 32 by decide), toNat_byte32 value (show 8 < 32 by decide),
    toNat_byte32 value (show 16 < 32 by decide), toNat_byte32 value (show 24 < 32 by decide)]
  omega

theorem leNat_le16 (value : UInt16) : leNat (le16 value) = value.toNat := by
  have bound := value.toNat_lt
  have high : (value >>> 8).toUInt8.toNat = value.toNat / 256 % 256 := by
    rw [UInt16.toNat_toUInt8, UInt16.toNat_shiftRight, Nat.shiftRight_eq_div_pow]
    rfl
  simp only [le16, leNat, high, UInt16.toNat_toUInt8]
  omega

namespace ByteReader

theorem reads_rawBytes (data : List UInt8) : Reads (rawBytes data.length) data data := by
  intro rest
  simp [rawBytes]

theorem reads_u8 (v : UInt8) : Reads u8 [v] v :=
  fun _ => rfl

theorem reads_u16 (v : UInt16) : Reads u16 (le16 v) v := by
  have read : Reads u16 (le16 v) (UInt16.ofNat (leNat (le16 v))) := Reads.last (reads_rawBytes (le16 v))
  rwa [leNat_le16, UInt16.ofNat_toNat] at read

theorem reads_u32 (v : UInt32) : Reads u32 (le32 v) v := by
  have read : Reads u32 (le32 v) (UInt32.ofNat (leNat (le32 v))) := Reads.last (reads_rawBytes (le32 v))
  rwa [leNat_le32, UInt32.ofNat_toNat] at read

theorem reads_u64 (v : UInt64) : Reads u64 (Blake2s256.le64 v) v := by
  have read : Reads u64 (Blake2s256.le64 v) (UInt64.ofNat (leNat (Blake2s256.le64 v))) :=
    Reads.last (reads_rawBytes (Blake2s256.le64 v))
  rwa [Blake2s256.leNat_le64, UInt64.ofNat_toNat] at read

theorem reads_boolean (v : Bool) : Reads boolean [if v then 1 else 0] v := by
  intro rest
  cases v <;> rfl

theorem reads_digest (value : Digest) : Reads digest value.bytes value := by
  intro rest
  have enough : 32 ≤ (value.bytes ++ rest).length := by
    rw [List.length_append, value.sized]
    omega
  have front : (value.bytes ++ rest).take 32 = value.bytes := List.take_left' value.sized
  have back : (value.bytes ++ rest).drop 32 = rest := List.drop_left' value.sized
  simp only [digest, enough, dite_true, front, back]
  rfl

/-- The bytes a length-prefixed field takes. -/
def blobBytes (data : List UInt8) : List UInt8 :=
  le32 (UInt32.ofNat data.length) ++ data

theorem reads_blob {data : List UInt8} {maxLen : Nat} (short : data.length ≤ maxLen)
    (counted : data.length < 2 ^ 32) : Reads (blob maxLen) (blobBytes data) data := by
  have length : (UInt32.ofNat data.length).toNat = data.length := UInt32.toNat_ofNat_of_lt' counted
  refine Reads.bind (reads_u32 _) ?_
  rw [length, if_neg (Nat.not_lt.mpr short)]
  exact reads_rawBytes data

theorem reads_text {value : Text} {maxLen : Nat} (short : value.length ≤ maxLen)
    (counted : value.length < 2 ^ 32) (valid : isValidUtf8 value = true) :
    Reads (text maxLen) (blobBytes value) value := by
  refine Reads.closed (reads_blob short counted) ?_
  simp only [valid, Bool.not_true, Bool.false_eq_true, if_false]
  exact Reads.done value

theorem reads_count {n maxCount : Nat} (bounded : n ≤ maxCount) (counted : n < 2 ^ 32) :
    Reads (count maxCount) (le32 (UInt32.ofNat n)) n := by
  have length : (UInt32.ofNat n).toNat = n := UInt32.toNat_ofNat_of_lt' counted
  refine Reads.closed (reads_u32 _) ?_
  rw [length, if_neg (Nat.not_lt.mpr bounded)]
  exact Reads.done n

end ByteReader

end RackFabric
