import Mathlib.Logic.Function.Iterate

/-!
Linear feedback shift registers that take in bytes low end first, as cyclic redundancy checks run them: which strings
of bytes leave different states.
-/

namespace Foundation

variable {w : Nat} (poly : BitVec w)

/-- One turn of the register: the bit shifted out feeds the polynomial back. -/
def turn (state : BitVec w) : BitVec w :=
  if state.getLsbD 0 then (state >>> 1) ^^^ poly else state >>> 1

/-- Takes in bytes, eight turns each. -/
def takeIn (state : BitVec w) (bytes : List (BitVec 8)) : BitVec w :=
  bytes.foldl (fun state byte => (turn poly)^[8] (state ^^^ byte.setWidth w)) state

/-- Bytes as one word, the first of them lowest. -/
def packBytes (w : Nat) : List (BitVec 8) → BitVec w
  | [] => 0#w
  | byte :: rest => byte.setWidth w ^^^ (packBytes w rest <<< 8)

private theorem xor_cancel (a b : BitVec w) : a ^^^ poly ^^^ (b ^^^ poly) = a ^^^ b := by
  rw [BitVec.xor_assoc, ← BitVec.xor_assoc poly, BitVec.xor_comm poly b, BitVec.xor_assoc b, BitVec.xor_self,
    BitVec.xor_zero]

/-! ### The register is linear and loses nothing -/

theorem turn_xor (a b : BitVec w) : turn poly (a ^^^ b) = turn poly a ^^^ turn poly b := by
  simp only [turn, BitVec.getLsbD_xor, BitVec.ushiftRight_xor_distrib]
  cases a.getLsbD 0 with
  | false =>
    cases b.getLsbD 0 with
    | false => rfl
    | true => exact BitVec.xor_assoc _ _ _
  | true =>
    cases b.getLsbD 0 with
    | false =>
      change (a >>> 1) ^^^ (b >>> 1) ^^^ poly = (a >>> 1) ^^^ poly ^^^ (b >>> 1)
      ac_rfl
    | true => exact (xor_cancel poly _ _).symm

theorem turns_xor (count : Nat) (a b : BitVec w) :
    (turn poly)^[count] (a ^^^ b) = (turn poly)^[count] a ^^^ (turn poly)^[count] b := by
  induction count generalizing a b with
  | zero => rfl
  | succ count ih => rw [Function.iterate_succ_apply, turn_xor, ih, ← Function.iterate_succ_apply,
      ← Function.iterate_succ_apply]

/-- A register whose low bits are clear only shifts. -/
theorem turns_of_clear {state : BitVec w} {count : Nat} (clear : ∀ i < count, state.getLsbD i = false) :
    (turn poly)^[count] state = state >>> count := by
  induction count with
  | zero => exact (BitVec.ushiftRight_zero state).symm
  | succ count ih =>
    have low : (state >>> count).getLsbD 0 = false := by
      rw [BitVec.getLsbD_ushiftRight]
      exact clear (count + 0) (Nat.lt_succ_self count)
    rw [Function.iterate_succ_apply', ih fun i less => clear i (Nat.lt_succ_of_lt less), turn, low,
      BitVec.shiftRight_add]
    rfl

/-- Eight turns look up the low byte and shift the rest down. -/
theorem turns_byte (state : BitVec w) :
    (turn poly)^[8] state = (turn poly)^[8] ((state.setWidth 8).setWidth w) ^^^ (state >>> 8) := by
  have bit : ∀ i, ((state.setWidth 8).setWidth w).getLsbD i = (decide (i < 8) && state.getLsbD i) := by
    intro i
    simp only [BitVec.getLsbD_setWidth]
    by_cases inside : i < w
    · simp [inside]
    · simp [BitVec.getLsbD_of_ge state i (by omega)]
  have clear : ∀ i < 8, (state ^^^ (state.setWidth 8).setWidth w).getLsbD i = false := by
    intro i low
    rw [BitVec.getLsbD_xor, bit]
    simp [low]
  have high : (state ^^^ (state.setWidth 8).setWidth w) >>> 8 = state >>> 8 := by
    apply BitVec.eq_of_getLsbD_eq
    intro i _
    have beyond : ¬ 8 + i < 8 := by omega
    rw [BitVec.getLsbD_ushiftRight, BitVec.getLsbD_ushiftRight, BitVec.getLsbD_xor, bit, decide_eq_false beyond,
      Bool.false_and, Bool.xor_false]
  rw [← high, ← turns_of_clear poly clear, ← turns_xor, BitVec.xor_comm state, ← BitVec.xor_assoc, BitVec.xor_self,
    BitVec.zero_xor]

private theorem turn_zero {state : BitVec w} (top : poly.msb = true) (cleared : turn poly state = 0#w) :
    state = 0#w := by
  have wide : 0 < w := by
    rcases Nat.eq_zero_or_pos w with rfl | wide
    · simp [BitVec.of_length_zero (x := poly)] at top
    · exact wide
  by_cases fed : state.getLsbD 0 = true
  · -- The bit fed back is the only one that can reach the top.
    rw [turn, if_pos fed] at cleared
    have bit := congrArg BitVec.msb cleared
    rw [BitVec.msb_xor, top] at bit
    simp [BitVec.msb_ushiftRight] at bit
  · rw [turn, if_neg fed] at cleared
    apply BitVec.eq_of_getLsbD_eq
    intro i inside
    rw [BitVec.getLsbD_zero]
    cases i with
    | zero => simpa using fed
    | succ i =>
      have bit := congrArg (fun state : BitVec w => state.getLsbD i) cleared
      simp only [BitVec.getLsbD_ushiftRight, BitVec.getLsbD_zero] at bit
      rwa [Nat.add_comm] at bit

theorem turn_injective (top : poly.msb = true) : Function.Injective (turn poly) := by
  intro a b same
  have apart : turn poly (a ^^^ b) = 0#w := by rw [turn_xor, same, BitVec.xor_self]
  have equal := turn_zero poly top apart
  have restored : a ^^^ b ^^^ b = b := by rw [equal, BitVec.zero_xor]
  rwa [BitVec.xor_assoc, BitVec.xor_self, BitVec.xor_zero] at restored

/-! ### Taking in bytes -/

theorem takeIn_append (state : BitVec w) (first second : List (BitVec 8)) :
    takeIn poly state (first ++ second) = takeIn poly (takeIn poly state first) second := by
  rw [takeIn, List.foldl_append]
  rfl

private theorem xor_left_cancel {a b c : BitVec w} (same : a ^^^ b = a ^^^ c) : b = c := by
  have cancelled := congrArg (a ^^^ ·) same
  simpa only [← BitVec.xor_assoc, BitVec.xor_self, BitVec.zero_xor] using cancelled

/-- The same bytes keep different states apart. -/
theorem takeIn_injective (top : poly.msb = true) (bytes : List (BitVec 8)) :
    Function.Injective fun state => takeIn poly state bytes := by
  induction bytes with
  | nil => exact fun _ _ same => same
  | cons byte rest ih =>
    intro a b same
    have turned := (turn_injective poly top).iterate 8 (ih same)
    rw [BitVec.xor_comm a, BitVec.xor_comm b] at turned
    exact xor_left_cancel turned

theorem packBytes_high (bytes : List (BitVec 8)) (i : Nat) (beyond : 8 * bytes.length ≤ i) :
    (packBytes w bytes).getLsbD i = false := by
  induction bytes generalizing i with
  | nil => exact BitVec.getLsbD_zero
  | cons byte rest ih =>
    rw [List.length_cons] at beyond
    have high : byte.getLsbD i = false := BitVec.getLsbD_of_ge byte i (by omega)
    rw [packBytes, BitVec.getLsbD_xor, BitVec.getLsbD_setWidth, BitVec.getLsbD_shiftLeft, high, ih (i - 8) (by omega)]
    simp

/-- Bytes that fit in the register turn it as the word they pack into does. -/
theorem takeIn_short (state : BitVec w) (bytes : List (BitVec 8)) (short : 8 * bytes.length ≤ w) :
    takeIn poly state bytes = (turn poly)^[8 * bytes.length] (state ^^^ packBytes w bytes) := by
  induction bytes generalizing state with
  | nil => exact (BitVec.xor_zero).symm
  | cons byte rest ih =>
    rw [List.length_cons] at short
    have clear : ∀ i < 8, (packBytes w rest <<< 8).getLsbD i = false := by
      intro i low
      simp [BitVec.getLsbD_shiftLeft, low]
    have back : (packBytes w rest <<< 8) >>> 8 = packBytes w rest := by
      apply BitVec.eq_of_getLsbD_eq
      intro i inside
      rw [BitVec.getLsbD_ushiftRight, BitVec.getLsbD_shiftLeft, Nat.add_sub_cancel_left]
      by_cases within : 8 + i < w
      · simp [within]
      · rw [packBytes_high rest i (by omega)]
        simp
    have shifted : packBytes w rest = (turn poly)^[8] (packBytes w rest <<< 8) := by
      rw [turns_of_clear poly clear, back]
    calc takeIn poly state (byte :: rest)
        = takeIn poly ((turn poly)^[8] (state ^^^ byte.setWidth w)) rest := rfl
      _ = (turn poly)^[8 * rest.length] ((turn poly)^[8] (state ^^^ byte.setWidth w) ^^^ packBytes w rest) :=
          ih _ (by omega)
      _ = (turn poly)^[8 * rest.length] ((turn poly)^[8] (state ^^^ byte.setWidth w) ^^^
            (turn poly)^[8] (packBytes w rest <<< 8)) := by rw [← shifted]
      _ = (turn poly)^[8 * rest.length + 8] (state ^^^ packBytes w (byte :: rest)) := by
          rw [← turns_xor, ← Function.iterate_add_apply, packBytes, BitVec.xor_assoc]

theorem packBytes_injective {first second : List (BitVec 8)} (long : first.length = second.length)
    (short : 8 * first.length ≤ w) (same : packBytes w first = packBytes w second) : first = second := by
  induction first generalizing second with
  | nil => exact (List.eq_nil_of_length_eq_zero long.symm).symm
  | cons byte rest ih =>
    cases second with
    | nil => cases long
    | cons other later =>
      rw [List.length_cons] at short
      have bits := fun i => congrArg (fun word : BitVec w => word.getLsbD i) same
      simp only [packBytes, BitVec.getLsbD_xor, BitVec.getLsbD_setWidth, BitVec.getLsbD_shiftLeft] at bits
      have heads : byte = other := by
        apply BitVec.eq_of_getLsbD_eq
        intro i low
        have bit := bits i
        have inside : i < w := by omega
        simpa [low, inside] using bit
      have tails : packBytes w rest = packBytes w later := by
        apply BitVec.eq_of_getLsbD_eq
        intro i inside
        by_cases within : 8 + i < w
        · have bit := bits (8 + i)
          have beyond : ¬ 8 + i < 8 := by omega
          simpa [within, beyond] using bit
        · rw [packBytes_high rest i (by omega), packBytes_high later i (by simp at long; omega)]
      rw [heads, ih (by simpa using long) (by omega) tails]

/-- Different bytes that fit in the register leave different states. -/
theorem takeIn_apart (top : poly.msb = true) {first second : List (BitVec 8)} (long : first.length = second.length)
    (short : 8 * first.length ≤ w) (state : BitVec w) (same : takeIn poly state first = takeIn poly state second) :
    first = second := by
  rw [takeIn_short poly state first short, takeIn_short poly state second (long ▸ short), ← long] at same
  exact packBytes_injective long short (xor_left_cancel ((turn_injective poly top).iterate _ same))

/-- Strings that differ within a register's length of bytes leave different states. -/
theorem takeIn_burst (top : poly.msb = true) {first second : List (BitVec 8)} (long : first.length = second.length)
    (short : 8 * first.length ≤ w) (apart : first ≠ second) (state : BitVec w) (before after : List (BitVec 8)) :
    takeIn poly state (before ++ (first ++ after)) ≠ takeIn poly state (before ++ (second ++ after)) := by
  intro same
  simp only [takeIn_append] at same
  exact apart (takeIn_apart poly top long short _ (takeIn_injective poly top after same))

end Foundation
