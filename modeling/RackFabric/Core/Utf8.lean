import RackFabric.Core.Bytes
import Mathlib.Data.List.Basic

/-!
What the UTF-8 scanner accepts: the texts that are written character by character in shortest form, without NUL.
-/

namespace RackFabric

/-- The byte strings that are the shortest-form encoding of scalar values other than NUL. -/
def EncodesText (data : List UInt8) : Prop :=
  ∃ chars : List Char, (∀ char ∈ chars, char ≠ '\x00') ∧ data = chars.flatMap String.utf8EncodeChar

/-! ### Bytes by their range -/

set_option maxRecDepth 4000 in
private theorem utf8Lead_table : ∀ n : Fin 256, utf8Lead (UInt8.ofNat n) =
    if 0xC0 ≤ n.val ∧ n.val < 0xE0 then some (1, UInt32.ofNat (n.val - 0xC0), 0x80)
    else if 0xE0 ≤ n.val ∧ n.val < 0xF0 then some (2, UInt32.ofNat (n.val - 0xE0), 0x800)
    else if 0xF0 ≤ n.val ∧ n.val < 0xF8 then some (3, UInt32.ofNat (n.val - 0xF0), 0x10000)
    else none := by decide

theorem utf8Lead_eq (byte : UInt8) : utf8Lead byte =
    if 0xC0 ≤ byte.toNat ∧ byte.toNat < 0xE0 then some (1, UInt32.ofNat (byte.toNat - 0xC0), 0x80)
    else if 0xE0 ≤ byte.toNat ∧ byte.toNat < 0xF0 then some (2, UInt32.ofNat (byte.toNat - 0xE0), 0x800)
    else if 0xF0 ≤ byte.toNat ∧ byte.toNat < 0xF8 then some (3, UInt32.ofNat (byte.toNat - 0xF0), 0x10000)
    else none := by
  have row := utf8Lead_table ⟨byte.toNat, byte.toNat_lt⟩
  rwa [UInt8.ofNat_toNat] at row

theorem utf8Lead_bounds {byte : UInt8} {extra : Nat} {cp lowest : UInt32}
    (lead : utf8Lead byte = some (extra, cp, lowest)) :
    (cp.toNat + 1) * 64 ^ extra ≤ 2 ^ 32 ∧ 0x80 ≤ lowest.toNat := by
  rw [utf8Lead_eq] at lead
  split at lead
  · simp only [Option.some.injEq, Prod.mk.injEq] at lead
    obtain ⟨rfl, rfl, rfl⟩ := lead
    rw [UInt32.toNat_ofNat']
    exact ⟨by omega, by decide⟩
  split at lead
  · simp only [Option.some.injEq, Prod.mk.injEq] at lead
    obtain ⟨rfl, rfl, rfl⟩ := lead
    rw [UInt32.toNat_ofNat']
    exact ⟨by omega, by decide⟩
  split at lead
  · simp only [Option.some.injEq, Prod.mk.injEq] at lead
    obtain ⟨rfl, rfl, rfl⟩ := lead
    rw [UInt32.toNat_ofNat']
    exact ⟨by omega, by decide⟩
  · cases lead

/-- A continuation byte. -/
def IsTail (byte : UInt8) : Prop :=
  0x80 ≤ byte.toNat ∧ byte.toNat < 0xC0

set_option maxRecDepth 4000 in
private theorem tail_table : ∀ n : Fin 256,
    ((UInt8.ofNat n &&& 0xC0 != 0x80) = true ↔ ¬ (0x80 ≤ n.val ∧ n.val < 0xC0)) ∧
      (UInt8.ofNat n &&& 0x3F).toNat = n.val % 64 := by decide

theorem isTail_iff (byte : UInt8) : (byte &&& 0xC0 != 0x80) = true ↔ ¬ IsTail byte := by
  have row := (tail_table ⟨byte.toNat, byte.toNat_lt⟩).1
  rwa [UInt8.ofNat_toNat] at row

theorem tail_bits (byte : UInt8) : (byte &&& 0x3F).toNat = byte.toNat % 64 := by
  have row := (tail_table ⟨byte.toNat, byte.toNat_lt⟩).2
  rwa [UInt8.ofNat_toNat] at row

/-! ### One character -/

private theorem pushTail_toNat {cp : UInt32} {byte : UInt8} (small : cp.toNat * 64 < 2 ^ 32) :
    ((cp <<< 6) ||| (byte &&& 0x3F).toUInt32).toNat = cp.toNat * 64 + byte.toNat % 64 := by
  have shifted : (cp <<< 6).toNat = cp.toNat <<< 6 := by
    rw [UInt32.toNat_shiftLeft]
    exact Nat.mod_eq_of_lt (by simpa [Nat.shiftLeft_eq] using small)
  have bits : byte.toNat % 64 < 2 ^ 6 := Nat.mod_lt _ (by decide)
  rw [UInt32.toNat_or, shifted, UInt8.toNat_toUInt32, tail_bits, ← Nat.shiftLeft_add_eq_or_of_lt bits,
    Nat.shiftLeft_eq]

/-- The code point that continuation bytes make of the bits of their lead. -/
def tailValue (lead : Nat) (tails : List UInt8) : Nat :=
  tails.foldl (fun value byte => value * 64 + byte.toNat % 64) lead

theorem utf8Continuation_iff {extra : Nat} {cp final : UInt32} {rest later : List UInt8}
    (small : (cp.toNat + 1) * 64 ^ extra ≤ 2 ^ 32) :
    utf8Continuation extra cp rest = some (final, later) ↔
      ∃ tails, rest = tails ++ later ∧ tails.length = extra ∧ (∀ byte ∈ tails, IsTail byte) ∧
        final.toNat = tailValue cp.toNat tails := by
  induction extra generalizing cp rest with
  | zero =>
    rw [utf8Continuation, Option.some.injEq, Prod.mk.injEq]
    constructor
    · rintro ⟨rfl, rfl⟩
      exact ⟨[], rfl, rfl, by simp, rfl⟩
    · rintro ⟨tails, rfl, none, -, value⟩
      obtain rfl := List.eq_nil_of_length_eq_zero none
      exact ⟨UInt32.toNat_inj.mp value.symm, rfl⟩
  | succ extra ih =>
    cases rest with
    | nil =>
      rw [utf8Continuation]
      constructor
      · nofun
      · rintro ⟨tails, empty, long, -⟩
        rw [(List.append_eq_nil_iff.mp empty.symm).1] at long
        cases long
    | cons byte rest =>
      have widened : (cp.toNat + 1) * 64 ^ (extra + 1) = (cp.toNat * 64 + 64) * 64 ^ extra := by
        rw [Nat.pow_succ', ← Nat.mul_assoc, Nat.add_mul, Nat.one_mul]
      have power : 0 < 64 ^ extra := Nat.pos_of_ne_zero (by simp)
      have room : cp.toNat * 64 < 2 ^ 32 := by
        have least := Nat.le_mul_of_pos_right (cp.toNat * 64 + 64) power
        omega
      have value := @pushTail_toNat cp byte room
      have next : (((cp <<< 6) ||| (byte &&& 0x3F).toUInt32).toNat + 1) * 64 ^ extra ≤ 2 ^ 32 := by
        rw [value]
        have bits := Nat.mod_lt byte.toNat (by decide : 0 < 64)
        exact Nat.le_trans (Nat.mul_le_mul_right _ (by omega)) (widened ▸ small)
      by_cases tail : IsTail byte
      · have taken : ¬ (byte &&& 0xC0 != 0x80) = true := fun other => (isTail_iff byte).mp other tail
        rw [utf8Continuation, if_neg taken, ih next, value]
        constructor
        · rintro ⟨tails, rfl, long, all, sum⟩
          exact ⟨byte :: tails, rfl, by simp [long], by simpa [tail] using all, sum⟩
        · rintro ⟨tails, same, long, all, sum⟩
          cases tails with
          | nil => cases long
          | cons other tails =>
            rw [List.cons_append, List.cons.injEq] at same
            obtain ⟨rfl, rfl⟩ := same
            exact ⟨tails, rfl, by simpa using long, fun byte member => all byte (by simp [member]), sum⟩
      · rw [utf8Continuation, if_pos ((isTail_iff byte).mpr tail)]
        constructor
        · nofun
        · rintro ⟨tails, same, long, all, -⟩
          cases tails with
          | nil => cases long
          | cons other tails =>
            rw [List.cons_append, List.cons.injEq] at same
            exact absurd (all other (by simp)) (same.1 ▸ tail)

/-- A lead byte and its continuation bytes are the encoding of the character whose value they carry, unless a shorter
one would do. -/
theorem utf8EncodeChar_wide {extra : Nat} {first : UInt8} {cp lowest : UInt32} {tails : List UInt8} {char : Char}
    (lead : utf8Lead first = some (extra, cp, lowest)) (long : tails.length = extra)
    (all : ∀ byte ∈ tails, IsTail byte) (value : char.val.toNat = tailValue cp.toNat tails)
    (least : lowest.toNat ≤ char.val.toNat) : String.utf8EncodeChar char = first :: tails := by
  rw [utf8Lead_eq] at lead
  unfold IsTail at all
  have scalar : char.val.toNat < 0x110000 := by
    have valid := char.valid
    unfold UInt32.isValidChar Nat.isValidChar at valid
    omega
  have bounded := first.toNat_lt
  split at lead
  · simp only [Option.some.injEq, Prod.mk.injEq] at lead
    obtain ⟨rfl, rfl, rfl⟩ := lead
    obtain ⟨one, rfl⟩ := List.length_eq_one_iff.mp long
    simp only [List.mem_cons, List.not_mem_nil, or_false, forall_eq] at all
    simp only [tailValue, List.foldl_cons, List.foldl_nil, UInt32.toNat_ofNat'] at value
    change 0x80 ≤ _ at least
    rw [String.utf8EncodeChar, if_neg (by omega), if_pos (by omega)]
    simp only [List.cons.injEq, and_true, ← UInt8.toNat_inj, UInt8.toNat_ofNat']
    omega
  split at lead
  · simp only [Option.some.injEq, Prod.mk.injEq] at lead
    obtain ⟨rfl, rfl, rfl⟩ := lead
    obtain ⟨one, two, rfl⟩ := List.length_eq_two.mp long
    simp only [List.mem_cons, List.not_mem_nil, or_false, forall_eq, forall_eq_or_imp] at all
    simp only [tailValue, List.foldl_cons, List.foldl_nil, UInt32.toNat_ofNat'] at value
    change 0x800 ≤ _ at least
    rw [String.utf8EncodeChar, if_neg (by omega), if_neg (by omega), if_pos (by omega)]
    simp only [List.cons.injEq, and_true, ← UInt8.toNat_inj, UInt8.toNat_ofNat']
    omega
  split at lead
  · simp only [Option.some.injEq, Prod.mk.injEq] at lead
    obtain ⟨rfl, rfl, rfl⟩ := lead
    obtain ⟨one, two, three, rfl⟩ := List.length_eq_three.mp long
    simp only [List.mem_cons, List.not_mem_nil, or_false, forall_eq, forall_eq_or_imp] at all
    simp only [tailValue, List.foldl_cons, List.foldl_nil, UInt32.toNat_ofNat'] at value
    change 0x10000 ≤ _ at least
    rw [String.utf8EncodeChar, if_neg (by omega), if_neg (by omega), if_neg (by omega)]
    simp only [List.cons.injEq, and_true, ← UInt8.toNat_inj, UInt8.toNat_ofNat']
    omega
  · cases lead

/-- Every character beyond seven bits is a lead byte and as many continuation bytes as the lead announces. -/
theorem utf8EncodeChar_parts {char : Char} (wide : 0x80 ≤ char.val.toNat) : ∃ first extra cp lowest tails,
    String.utf8EncodeChar char = first :: tails ∧ utf8Lead first = some (extra, cp, lowest) ∧
      0x80 ≤ first.toNat ∧ (cp.toNat + 1) * 64 ^ extra ≤ 2 ^ 32 ∧ tails.length = extra ∧
      (∀ byte ∈ tails, IsTail byte) ∧ char.val.toNat = tailValue cp.toNat tails ∧ lowest.toNat ≤ char.val.toNat := by
  have scalar : char.val.toNat < 0x110000 := by
    have valid := char.valid
    unfold UInt32.isValidChar Nat.isValidChar at valid
    omega
  by_cases two : char.val.toNat ≤ 0x7FF
  · have first : (UInt8.ofNat (char.val.toNat / 64 % 0x20 + 0xC0)).toNat = char.val.toNat / 64 % 0x20 + 0xC0 := by
      rw [UInt8.toNat_ofNat']
      omega
    refine ⟨_, 1, UInt32.ofNat (char.val.toNat / 64 % 0x20), 0x80, _, by rw [String.utf8EncodeChar, if_neg (by omega), if_pos two], ?_, ?_, ?_, rfl, ?_, ?_,
      wide⟩
    · rw [utf8Lead_eq, first, if_pos (by omega), Nat.add_sub_cancel]
    · omega
    · rw [UInt32.toNat_ofNat']
      omega
    · simp only [List.mem_cons, List.not_mem_nil, or_false, forall_eq, IsTail, UInt8.toNat_ofNat']
      omega
    · simp only [tailValue, List.foldl_cons, List.foldl_nil, UInt32.toNat_ofNat', UInt8.toNat_ofNat']
      omega
  by_cases three : char.val.toNat ≤ 0xFFFF
  · have first : (UInt8.ofNat (char.val.toNat / 4096 % 0x10 + 0xE0)).toNat = char.val.toNat / 4096 % 0x10 + 0xE0 := by
      rw [UInt8.toNat_ofNat']
      omega
    refine ⟨_, 2, UInt32.ofNat (char.val.toNat / 4096 % 0x10), 0x800, _, by rw [String.utf8EncodeChar, if_neg (by omega), if_neg two, if_pos three], ?_, ?_, ?_, rfl, ?_, ?_,
      Nat.lt_of_not_le two⟩
    · rw [utf8Lead_eq, first, if_neg (by omega), if_pos (by omega), Nat.add_sub_cancel]
    · omega
    · rw [UInt32.toNat_ofNat']
      omega
    · simp only [List.mem_cons, List.not_mem_nil, or_false, forall_eq, forall_eq_or_imp, IsTail, UInt8.toNat_ofNat']
      omega
    · simp only [tailValue, List.foldl_cons, List.foldl_nil, UInt32.toNat_ofNat', UInt8.toNat_ofNat']
      omega
  · have first : (UInt8.ofNat (char.val.toNat / 262144 % 0x08 + 0xF0)).toNat = char.val.toNat / 262144 % 0x08 + 0xF0 := by
      rw [UInt8.toNat_ofNat']
      omega
    refine ⟨_, 3, UInt32.ofNat (char.val.toNat / 262144 % 0x08), 0x10000, _, by rw [String.utf8EncodeChar, if_neg (by omega), if_neg two, if_neg three], ?_, ?_, ?_, rfl, ?_, ?_,
      Nat.lt_of_not_le three⟩
    · rw [utf8Lead_eq, first, if_neg (by omega), if_neg (by omega), if_pos (by omega), Nat.add_sub_cancel]
    · omega
    · rw [UInt32.toNat_ofNat']
      omega
    · simp only [List.mem_cons, List.not_mem_nil, or_false, forall_eq, forall_eq_or_imp, IsTail, UInt8.toNat_ofNat']
      omega
    · simp only [tailValue, List.foldl_cons, List.foldl_nil, UInt32.toNat_ofNat', UInt8.toNat_ofNat']
      omega

/-- What a lead byte and its continuation make when the scan goes on behind them. -/
theorem isValidUtf8Loop_wide {fuel extra : Nat} {first : UInt8} {cp lowest : UInt32} {rest : List UInt8}
    (high : 0x80 ≤ first.toNat) (lead : utf8Lead first = some (extra, cp, lowest)) :
    isValidUtf8Loop (fuel + 1) (first :: rest) = true ↔ ∃ final later,
      utf8Continuation extra cp rest = some (final, later) ∧ lowest.toNat ≤ final.toNat ∧ final.isValidChar ∧
        isValidUtf8Loop fuel later = true := by
  have nonzero : (first == 0) = false := by
    rw [beq_eq_false_iff_ne]
    rintro rfl
    exact absurd high (by decide)
  have wide : ¬ first < 0x80 := by
    rw [UInt8.not_lt, UInt8.le_iff_toNat_le]
    exact high
  simp only [isValidUtf8Loop, nonzero, Bool.false_eq_true, if_false, if_neg wide, lead]
  cases continued : utf8Continuation extra cp rest with
  | none => simp
  | some found =>
    obtain ⟨final, later⟩ := found
    simp only [Option.some.injEq, Prod.mk.injEq, UInt32.isValidChar, Nat.isValidChar, UInt32.lt_iff_toNat_lt,
      UInt32.le_iff_toNat_le, ge_iff_le, gt_iff_lt, Bool.and_eq_true, decide_eq_true_eq]
    change (if final.toNat < lowest.toNat then false else if 0x10FFFF < final.toNat then false
      else if 0xD800 ≤ final.toNat ∧ final.toNat ≤ 0xDFFF then false else isValidUtf8Loop fuel later) = true ↔ _
    constructor
    · intro accepted
      split at accepted
      · cases accepted
      split at accepted
      · cases accepted
      split at accepted
      · cases accepted
      exact ⟨final, later, ⟨rfl, rfl⟩, by omega, by omega, accepted⟩
    · rintro ⟨_, _, ⟨rfl, rfl⟩, least, scalar, accepted⟩
      rw [if_neg (by omega), if_neg (by omega), if_neg (by omega)]
      exact accepted

/-! ### The scan -/

private theorem char_eq_nul {char : Char} (zero : char.val.toNat = 0) : char = '\x00' :=
  Char.ext (UInt32.toNat_inj.mp zero)

theorem isValidUtf8Loop_ascii {fuel : Nat} {first : UInt8} {rest : List UInt8} (narrow : first.toNat < 0x80) :
    isValidUtf8Loop (fuel + 1) (first :: rest) = true ↔ first ≠ 0 ∧ isValidUtf8Loop fuel rest = true := by
  have single : first < 0x80 := UInt8.lt_iff_toNat_lt.mpr narrow
  by_cases zero : first = 0
  · simp [isValidUtf8Loop, zero]
  · simp [isValidUtf8Loop, zero, single]

/-- A character in front costs one turn of the scan. -/
theorem isValidUtf8Loop_char {fuel : Nat} {char : Char} {later : List UInt8} (other : char ≠ '\x00')
    (accepted : isValidUtf8Loop fuel later = true) :
    isValidUtf8Loop (fuel + 1) (String.utf8EncodeChar char ++ later) = true := by
  by_cases wide : 0x80 ≤ char.val.toNat
  · obtain ⟨first, extra, cp, lowest, tails, spelled, lead, high, small, long, all, value, least⟩ :=
      utf8EncodeChar_parts wide
    rw [spelled, List.cons_append, isValidUtf8Loop_wide high lead]
    exact ⟨char.val, later, (utf8Continuation_iff small).mpr ⟨tails, rfl, long, all, value⟩, least, char.valid,
      accepted⟩
  · have spelled : String.utf8EncodeChar char = [UInt8.ofNat char.val.toNat] := by
      rw [String.utf8EncodeChar, if_pos (by omega)]
    have narrow : (UInt8.ofNat char.val.toNat).toNat = char.val.toNat := by
      rw [UInt8.toNat_ofNat']
      omega
    rw [spelled, List.singleton_append, isValidUtf8Loop_ascii (by omega)]
    refine ⟨fun zero => other (char_eq_nul ?_), accepted⟩
    rw [← narrow, zero]
    rfl

/-- Whatever the scan passes begins with a character. -/
theorem isValidUtf8Loop_spells {fuel : Nat} {first : UInt8} {rest : List UInt8}
    (accepted : isValidUtf8Loop (fuel + 1) (first :: rest) = true) : ∃ char later, char ≠ '\x00' ∧
      first :: rest = String.utf8EncodeChar char ++ later ∧ isValidUtf8Loop fuel later = true := by
  by_cases high : 0x80 ≤ first.toNat
  · cases lead : utf8Lead first with
    | none =>
      have wide : ¬ first < 0x80 := fun low => absurd (UInt8.lt_iff_toNat_lt.mp low) (by simpa using high)
      simp [isValidUtf8Loop, wide, lead] at accepted
    | some found =>
      obtain ⟨extra, cp, lowest⟩ := found
      obtain ⟨final, later, continued, least, scalar, passed⟩ := (isValidUtf8Loop_wide high lead).mp accepted
      obtain ⟨small, above⟩ := utf8Lead_bounds lead
      obtain ⟨tails, rfl, long, all, value⟩ := (utf8Continuation_iff small).mp continued
      have spelled : String.utf8EncodeChar ⟨final, scalar⟩ = first :: tails :=
        utf8EncodeChar_wide lead long all value least
      refine ⟨⟨final, scalar⟩, later, ?_, by rw [spelled, List.cons_append], passed⟩
      intro nul
      have zero : final = 0 := congrArg Char.val nul
      rw [zero] at least
      exact absurd (Nat.le_trans above least) (by decide)
  · obtain ⟨nonzero, accepted⟩ := (isValidUtf8Loop_ascii (by omega)).mp accepted
    have valid : first.toUInt32.isValidChar := by
      rw [UInt32.isValidChar, UInt8.toNat_toUInt32]
      exact Or.inl (by omega)
    refine ⟨⟨first.toUInt32, valid⟩, rest, ?_, ?_, accepted⟩
    · intro nul
      have zero : first.toUInt32 = 0 := congrArg Char.val nul
      refine nonzero (UInt8.toNat_inj.mp ?_)
      rw [← UInt8.toNat_toUInt32, zero]
      rfl
    · rw [String.utf8EncodeChar]
      simp only [UInt8.toNat_toUInt32]
      rw [if_pos (by omega), UInt8.ofNat_toNat, List.singleton_append]

theorem isValidUtf8Loop_sound {fuel : Nat} {data : List UInt8} (accepted : isValidUtf8Loop fuel data = true) :
    EncodesText data := by
  induction fuel generalizing data with
  | zero =>
    cases data with
    | nil => exact ⟨[], by simp, rfl⟩
    | cons first rest => cases accepted
  | succ fuel ih =>
    cases data with
    | nil => exact ⟨[], by simp, rfl⟩
    | cons first rest =>
      obtain ⟨char, later, other, spelled, accepted⟩ := isValidUtf8Loop_spells accepted
      obtain ⟨chars, others, rfl⟩ := ih accepted
      exact ⟨char :: chars, by simpa [other] using others, by rw [spelled, List.flatMap_cons]⟩

theorem isValidUtf8Loop_complete {fuel : Nat} {chars : List Char} (others : ∀ char ∈ chars, char ≠ '\x00')
    (enough : chars.length ≤ fuel) : isValidUtf8Loop fuel (chars.flatMap String.utf8EncodeChar) = true := by
  induction chars generalizing fuel with
  | nil => cases fuel <;> rfl
  | cons char chars ih =>
    cases fuel with
    | zero => cases enough
    | succ fuel =>
      rw [List.flatMap_cons]
      exact isValidUtf8Loop_char (others char (by simp))
        (ih (fun char member => others char (by simp [member])) (Nat.le_of_succ_le_succ enough))

private theorem length_flatMap_utf8EncodeChar (chars : List Char) :
    chars.length ≤ (chars.flatMap String.utf8EncodeChar).length := by
  induction chars with
  | nil => exact Nat.le_refl _
  | cons char chars ih =>
    have some := List.length_pos_iff.mpr (String.utf8EncodeChar_ne_nil (c := char))
    rw [List.flatMap_cons, List.length_append, List.length_cons]
    omega

/-- The validator accepts exactly the shortest-form encodings of texts without NUL. -/
theorem isValidUtf8_iff (data : List UInt8) : isValidUtf8 data = true ↔ EncodesText data := by
  constructor
  · exact isValidUtf8Loop_sound
  · rintro ⟨chars, others, rfl⟩
    exact isValidUtf8Loop_complete others (length_flatMap_utf8EncodeChar chars)

example : isValidUtf8 [0xE2, 0x82, 0xAC, 0xED, 0x9F, 0xBF] = true := by decide

example : isValidUtf8 [0xED, 0xA0, 0x80] = false ∧ isValidUtf8 [0xF4, 0x90, 0x80, 0x80] = false := by decide

end RackFabric
