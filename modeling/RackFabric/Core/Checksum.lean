import RackFabric.Core.Reader
import RackFabric.Foundation.Feedback
import Mathlib.Data.List.TakeDrop

/-!
CRC-32C as a feedback register: the table holds eight turns of each byte, so the checksum tells apart any two strings
that differ within four bytes.
-/

namespace RackFabric

open Foundation

/-- The Castagnoli polynomial, reflected. -/
def kCastagnoli : BitVec 32 := 0x82F63B78#32

private theorem low_bit (crc : UInt32) : (crc &&& 1 != 0) = crc.toBitVec.getLsbD 0 := by
  have masked : (crc &&& 1).toBitVec = BitVec.setWidth 32 (BitVec.ofBool (crc.toBitVec.getLsbD 0)) := by
    rw [UInt32.toBitVec_and]
    exact BitVec.and_one_eq_setWidth_ofBool_getLsbD
  have same : crc &&& 1 = 0 ↔ crc.toBitVec.getLsbD 0 = false := by
    rw [← UInt32.toBitVec_inj, masked]
    cases crc.toBitVec.getLsbD 0 <;> decide
  rw [bne, Bool.eq_iff_iff, Bool.not_eq_true', beq_eq_false_iff_ne, Ne, same, Bool.not_eq_false]

/-- An entry of the table is eight turns of its index. -/
theorem crc32cEntry_turns (index : UInt8) :
    (crc32cEntry index).toBitVec = (turn kCastagnoli)^[8] (index.toBitVec.setWidth 32) := by
  have step : ∀ (rounds : List Nat) (crc : UInt32),
      (rounds.foldl (fun (crc : UInt32) _ => if crc &&& 1 != 0 then (crc >>> 1) ^^^ 0x82F63B78 else crc >>> 1) crc).toBitVec =
        (turn kCastagnoli)^[rounds.length] crc.toBitVec := by
    intro rounds
    induction rounds with
    | nil => exact fun _ => rfl
    | cons _ rest ih =>
      intro crc
      rw [List.foldl_cons, ih, List.length_cons, Function.iterate_succ_apply, turn, ← low_bit]
      split <;> rfl
  exact step (List.range 8) index.toUInt32

/-- One byte by the table is eight turns of the register. -/
theorem crc32c_byte (crc : UInt32) (byte : UInt8) :
    (crc32cEntry ((crc ^^^ byte.toUInt32) &&& 0xFF).toUInt8 ^^^ (crc >>> 8)).toBitVec =
      (turn kCastagnoli)^[8] (crc.toBitVec ^^^ byte.toBitVec.setWidth 32) := by
  have index : ((crc ^^^ byte.toUInt32) &&& 0xFF).toUInt8.toBitVec =
      (crc.toBitVec ^^^ byte.toBitVec.setWidth 32).setWidth 8 := by
    apply BitVec.eq_of_getLsbD_eq
    intro i low
    have mask : ∀ i < 8, (255#8).getLsbD i = true := by decide
    simp [BitVec.getLsbD_setWidth, mask i low]
  have shifted : (crc >>> 8).toBitVec = (crc.toBitVec ^^^ byte.toBitVec.setWidth 32) >>> 8 := by
    apply BitVec.eq_of_getLsbD_eq
    intro i inside
    simp
  rw [UInt32.toBitVec_xor, crc32cEntry_turns, index, shifted, ← turns_byte]

theorem crc32cExtend_takeIn (seed : UInt32) (data : List UInt8) :
    (crc32cExtend seed data).toBitVec = ~~~ takeIn kCastagnoli (~~~ seed.toBitVec) (data.map UInt8.toBitVec) := by
  have taken : ∀ (data : List UInt8) (crc : UInt32), (data.foldl (fun (crc : UInt32) byte =>
      crc32cEntry ((crc ^^^ byte.toUInt32) &&& 0xFF).toUInt8 ^^^ (crc >>> 8)) crc).toBitVec =
        takeIn kCastagnoli crc.toBitVec (data.map UInt8.toBitVec) := by
    intro data
    induction data with
    | nil => exact fun _ => rfl
    | cons byte rest ih =>
      intro crc
      rw [List.foldl_cons, ih, crc32c_byte]
      rfl
  rw [crc32cExtend, UInt32.toBitVec_not, taken, UInt32.toBitVec_not]

/-- Strings that differ in some places of a window of four bytes, and nowhere else, have different checksums. -/
theorem crc32c_window {x y : List UInt8} (long : x.length = y.length) (apart : x ≠ y) (start : Nat)
    (window : ∀ i, x[i]? ≠ y[i]? → start ≤ i ∧ i < start + 4) : crc32c x ≠ crc32c y := by
  have before : x.take start = y.take start := by
    apply List.ext_getElem?
    intro i
    rw [List.getElem?_take, List.getElem?_take]
    by_cases early : i < start
    · rw [if_pos early, if_pos early]
      by_contra differ
      exact absurd (window i differ).1 (by omega)
    · rw [if_neg early, if_neg early]
  have after : x.drop (start + 4) = y.drop (start + 4) := by
    apply List.ext_getElem?
    intro i
    rw [List.getElem?_drop, List.getElem?_drop]
    by_contra differ
    exact absurd (window _ differ).2 (by omega)
  have split : ∀ whole : List UInt8, whole.map UInt8.toBitVec = (whole.take start).map UInt8.toBitVec ++
      (((whole.drop start).take 4).map UInt8.toBitVec ++ (whole.drop (start + 4)).map UInt8.toBitVec) := by
    intro whole
    rw [← List.map_append, ← List.map_append, ← List.drop_drop, List.take_append_drop, List.take_append_drop]
  have inside : ((x.drop start).take 4).map UInt8.toBitVec ≠ ((y.drop start).take 4).map UInt8.toBitVec := by
    intro same
    have injective : Function.Injective UInt8.toBitVec := fun a b equal => UInt8.toBitVec_inj.mp equal
    apply apart
    apply List.map_injective_iff.mpr injective
    rw [split x, split y, before, after, same]
  intro same
  have registers := congrArg UInt32.toBitVec same
  rw [crc32c, crc32c, crc32cExtend_takeIn, crc32cExtend_takeIn, split x, split y, before, after] at registers
  refine takeIn_burst kCastagnoli (by decide) ?_ ?_ inside _ _ _ (BitVec.not_inj.mp registers)
  · simp [long]
  · simp only [List.length_map, List.length_take]
    omega

/-- CRC-32C detects every burst of up to four bytes, and goes on over a second string from the checksum of the first. -/
theorem crc32c_detects_bursts :
    (∀ (x y : List UInt8) (start : Nat), x.length = y.length → x ≠ y →
      (∀ i, x[i]? ≠ y[i]? → start ≤ i ∧ i < start + 4) → crc32c x ≠ crc32c y) ∧
    ∀ a b : List UInt8, crc32cExtend (crc32c a) b = crc32c (a ++ b) := by
  constructor
  · intro x y start long apart window
    exact crc32c_window long apart start window
  · intro a b
    rw [← UInt32.toBitVec_inj, crc32c, crc32c, crc32cExtend_takeIn, crc32cExtend_takeIn, crc32cExtend_takeIn,
      List.map_append, takeIn_append, BitVec.not_not]

theorem crc32c_burst_of_three :
    crc32c [1, 2, 3, 4, 5] ≠ crc32c [1, 9, 3, 7, 5] ∧ crc32cExtend (crc32c [1, 2]) [3] = crc32c [1, 2, 3] := by
  constructor
  · refine crc32c_detects_bursts.1 [1, 2, 3, 4, 5] [1, 9, 3, 7, 5] 1 rfl (by decide) ?_
    intro i differ
    match i with
    | 0 | 2 | 4 => exact absurd rfl differ
    | 1 | 3 => omega
    | i + 5 => exact absurd rfl differ
  · exact crc32c_detects_bursts.2 [1, 2] [3]

end RackFabric
