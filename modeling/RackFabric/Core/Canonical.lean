import RackFabric.Core.Reader
import RackFabric.Foundation.Exact

/-!
The primitives of the encoding are exact: each accepts one spelling of a value and nothing else.
-/

namespace RackFabric

open Foundation

theorem leNat_lt (data : List UInt8) : leNat data < 256 ^ data.length := by
  induction data with
  | nil => simp [leNat]
  | cons byte rest ih =>
    have small := byte.toNat_lt
    rw [leNat, List.length_cons, Nat.pow_succ]
    omega

theorem leNat_injective {first second : List UInt8} (length : first.length = second.length)
    (same : leNat first = leNat second) : first = second := by
  induction first generalizing second with
  | nil => exact (List.length_eq_zero_iff.mp length.symm).symm
  | cons byte rest ih =>
    cases second with
    | nil => cases length
    | cons other others =>
      have low := byte.toNat_lt
      have low' := other.toNat_lt
      simp only [leNat] at same
      have head : byte = other := UInt8.toNat_inj.mp (by omega)
      have tail : rest = others := ih (Nat.succ.inj length) (by omega)
      rw [head, tail]

namespace ByteReader

theorem takes_rawBytes (n : Nat) : Takes (rawBytes n) fun taken value => taken = value ∧ value.length = n := by
  intro input value rest returned
  unfold rawBytes at returned
  split at returned
  · cases returned
  · rename_i enough
    cases returned
    refine ⟨input.take n, (List.take_append_drop n input).symm, rfl, ?_⟩
    rw [List.length_take]
    omega

theorem exact_u8 : Exact u8 (fun v => [v]) fun _ => True where
  reads v _ := reads_u8 v
  takes := by
    intro input value rest returned
    cases input with
    | nil => cases returned
    | cons byte tail =>
      cases returned
      exact ⟨[value], rfl, rfl, trivial⟩

/-- A fixed number of bytes read as a number is exact when the number's own bytes read as it. -/
private theorem exact_fixed {α : Type} {ofNat : Nat → α} {bytes : α → List UInt8} {width : Nat}
    (reads : ∀ v, Reads (rawBytes width >>= fun data => pure (ofNat (leNat data))) (bytes v) v)
    (sized : ∀ v, (bytes v).length = width)
    (value : ∀ data : List UInt8, data.length = width → leNat (bytes (ofNat (leNat data))) = leNat data) :
    Exact (rawBytes width >>= fun data => pure (ofNat (leNat data)) : Reading α) bytes fun _ => True where
  reads v _ := reads v
  takes := by
    apply (takes_rawBytes width).bind
    rintro taken data ⟨rfl, length⟩
    apply Takes.done
    rw [List.append_nil]
    exact ⟨leNat_injective (length.trans (sized _).symm) (value taken length).symm, trivial⟩

theorem exact_u16 : Exact u16 le16 fun _ => True := by
  refine exact_fixed reads_u16 length_le16 ?_
  intro data length
  have bound := leNat_lt data
  rw [leNat_le16, UInt16.toNat_ofNat_of_lt' (by rw [length] at bound; exact bound)]

theorem exact_u32 : Exact u32 le32 fun _ => True := by
  refine exact_fixed reads_u32 length_le32 ?_
  intro data length
  have bound := leNat_lt data
  rw [leNat_le32, UInt32.toNat_ofNat_of_lt' (by rw [length] at bound; exact bound)]

theorem exact_u64 : Exact u64 Blake2s256.le64 fun _ => True := by
  refine exact_fixed reads_u64 Blake2s256.length_le64 ?_
  intro data length
  have bound := leNat_lt data
  rw [Blake2s256.leNat_le64, UInt64.toNat_ofNat_of_lt' (by rw [length] at bound; exact bound)]

theorem exact_boolean : Exact boolean (fun v => [if v then 1 else 0]) fun _ => True where
  reads v _ := reads_boolean v
  takes := by
    apply exact_u8.takes.bind
    rintro taken v ⟨rfl, -⟩
    split
    · intro input value rest returned
      cases returned
    · rename_i small
      apply Takes.done
      refine ⟨?_, trivial⟩
      have cases_ : v = 0 ∨ v = 1 := by
        have most := UInt8.le_iff_toNat_le.mp (UInt8.not_lt.mp small)
        have one : (1 : UInt8).toNat = 1 := rfl
        rw [one] at most
        rcases Nat.le_one_iff_eq_zero_or_eq_one.mp most with zero | one
        · exact .inl (UInt8.toNat_inj.mp zero)
        · exact .inr (UInt8.toNat_inj.mp one)
      rcases cases_ with rfl | rfl
      · rfl
      · rfl

theorem exact_digest : Exact digest Digest.bytes fun _ => True where
  reads value _ := reads_digest value
  takes := by
    intro input value rest returned
    unfold digest at returned
    split at returned
    · cases returned
      exact ⟨input.take 32, (List.take_append_drop 32 input).symm, rfl, trivial⟩
    · cases returned

theorem exact_count {maxCount : Nat} (counted : maxCount < 2 ^ 32) :
    Exact (count maxCount) (fun n => le32 (UInt32.ofNat n)) fun n => n ≤ maxCount where
  reads n bounded := reads_count bounded (by omega)
  takes := by
    apply exact_u32.takes.bind
    rintro taken n ⟨rfl, -⟩
    split
    · intro input value rest returned
      cases returned
    · rename_i bounded
      apply Takes.done
      rw [List.append_nil, UInt32.ofNat_toNat]
      exact ⟨rfl, Nat.not_lt.mp bounded⟩

theorem exact_blob {maxLen : Nat} (counted : maxLen < 2 ^ 32) :
    Exact (blob maxLen) blobBytes fun data => data.length ≤ maxLen where
  reads data short := reads_blob short (by omega)
  takes := by
    apply exact_u32.takes.bind
    rintro taken n ⟨rfl, -⟩
    split
    · intro input value rest returned
      cases returned
    · rename_i bounded
      refine (takes_rawBytes n.toNat).mono ?_
      rintro further data ⟨rfl, length⟩
      rw [blobBytes, length, UInt32.ofNat_toNat]
      exact ⟨rfl, Nat.not_lt.mp bounded⟩

theorem exact_text {maxLen : Nat} (counted : maxLen < 2 ^ 32) :
    Exact (text maxLen) blobBytes fun value => isValidUtf8 value = true ∧ value.length ≤ maxLen where
  reads value writable := reads_text writable.2 (by have := writable.2; omega) writable.1
  takes := by
    apply (exact_blob counted).takes.bind
    rintro taken value ⟨rfl, short⟩
    split
    · intro input value rest returned
      cases returned
    · rename_i valid
      apply Takes.done
      rw [List.append_nil]
      exact ⟨rfl, by simpa using valid, short⟩

end ByteReader

end RackFabric
