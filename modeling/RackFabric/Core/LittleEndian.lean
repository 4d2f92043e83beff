import RackFabric.Core.Hash

/-!
Little-endian integers: reading the bytes of one gives it back.
-/

namespace RackFabric

/-- The number a list of bytes stands for, least significant byte first. -/
def leNat : List UInt8 → Nat
  | [] => 0
  | byte :: rest => byte.toNat + 256 * leNat rest

namespace Blake2s256

@[simp] theorem length_le64 (value : UInt64) : (le64 value).length = 8 := by
  simp [le64]

theorem toNat_byte (value : UInt64) {shift : Nat} (small : shift < 64) :
    (value >>> UInt64.ofNat shift).toUInt8.toNat = value.toNat / 2 ^ shift % 256 := by
  have exact_ : (UInt64.ofNat shift).toNat = shift := by
    rw [UInt64.toNat_ofNat']
    exact Nat.mod_eq_of_lt (by omega)
  rw [UInt64.toNat_toUInt8, UInt64.toNat_shiftRight, exact_, Nat.mod_eq_of_lt small, Nat.shiftRight_eq_div_pow]

theorem leNat_le64 (value : UInt64) : leNat (le64 value) = value.toNat := by
  have bound := value.toNat_lt
  have bytes : le64 value = [(value >>> UInt64.ofNat 0).toUInt8, (value >>> UInt64.ofNat 8).toUInt8,
      (value >>> UInt64.ofNat 16).toUInt8, (value >>> UInt64.ofNat 24).toUInt8, (value >>> UInt64.ofNat 32).toUInt8,
      (value >>> UInt64.ofNat 40).toUInt8, (value >>> UInt64.ofNat 48).toUInt8, (value >>> UInt64.ofNat 56).toUInt8] :=
    rfl
  rw [bytes]
  simp only [leNat, toNat_byte value (show 0 < 64 by decide), toNat_byte value (show 8 < 64 by decide),
    toNat_byte value (show 16 < 64 by decide), toNat_byte value (show 24 < 64 by decide),
    toNat_byte value (show 32 < 64 by decide), toNat_byte value (show 40 < 64 by decide),
    toNat_byte value (show 48 < 64 by decide), toNat_byte value (show 56 < 64 by decide)]
  omega

theorem le64_injective {a b : UInt64} (same : le64 a = le64 b) : a = b := by
  have values := congrArg leNat same
  rw [leNat_le64, leNat_le64] at values
  exact UInt64.toNat_inj.mp values

end Blake2s256

end RackFabric
