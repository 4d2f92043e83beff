import RackFabric.Model.Types
import Mathlib.Data.List.Basic

/-!
Resource references as text: the operator's spelling of a scope and its reading.
-/

namespace RackFabric

/-- The digit loop of `parse_u64`: a digit that would carry the value past the largest word is refused before it is
multiplied in. -/
def parseDigits : UInt64 → Text → Option UInt64
  | value, [] => some value
  | value, c :: rest =>
    if c < 48 || c > 57 then none
    else
      let digit := (c - 48).toUInt64
      if value > (0xFFFFFFFFFFFFFFFF - digit) / 10 then none
      else parseDigits (value * 10 + digit) rest

def parseU64 (value : Text) : Option UInt64 :=
  if value.isEmpty || value.length > 20 then none
  else parseDigits 0 value

def parseEnum {Enum : Type} (value : Text) (table : List (Text × Enum)) : Option Enum :=
  (table.find? fun entry => entry.1 == value).map (·.2)

def kResourceKinds : List (Text × ResourceKind) :=
  [(text "rack", .rack), (text "device", .device), (text "port", .port), (text "link", .link),
    (text "attachment", .attachment), (text "path", .path)]

def parseResourceKind (value : Text) : Option ResourceKind :=
  parseEnum value kResourceKinds

def parseResourceRef (value : Text) : Result ResourceRef :=
  match value.findIdx? (· == 58) with
  | none => .error ⟨.malformedEncoding, text "resource reference must be '<kind>:<id>'"⟩
  | some colon =>
    if colon == 0 || colon + 1 ≥ value.length then
      .error ⟨.malformedEncoding, text "resource reference must be '<kind>:<id>'"⟩
    else
      match parseResourceKind (value.take colon) with
      | none => .error ⟨.malformedEncoding, text "unknown resource kind"⟩
      | some kind =>
        match parseU64 (value.drop (colon + 1)) with
        | none => .error ⟨.invalidIdentity, text "resource id must be a positive integer"⟩
        | some id =>
          if id == 0 then .error ⟨.invalidIdentity, text "resource id must be a positive integer"⟩
          else .ok ⟨kind, id⟩

example : parseResourceRef (text "port:42") = .ok ⟨.port, 42⟩ := by decide

/-! ### Digit strings -/

/-- An ASCII decimal digit. -/
def IsDigit (byte : UInt8) : Prop :=
  48 ≤ byte.toNat ∧ byte.toNat ≤ 57

/-- The number that a string of digits denotes, leading zeros included, when the digits before it denote `prior`. -/
def denoted (prior : Nat) (digits : Text) : Nat :=
  digits.foldl (fun value digit => value * 10 + (digit.toNat - 48)) prior

theorem denoted_cons (prior : Nat) (digit : UInt8) (digits : Text) :
    denoted prior (digit :: digits) = denoted (prior * 10 + (digit.toNat - 48)) digits := by
  simp only [denoted, List.foldl_cons]

theorem denoted_append (prior : Nat) (front back : Text) :
    denoted prior (front ++ back) = denoted (denoted prior front) back := by
  simp only [denoted, List.foldl_append]

theorem le_denoted (prior : Nat) (digits : Text) : prior ≤ denoted prior digits := by
  induction digits generalizing prior with
  | nil => exact Nat.le_refl _
  | cons digit digits ih =>
    rw [denoted_cons]
    have next := ih (prior * 10 + (digit.toNat - 48))
    omega

theorem digit_toNat {c : UInt8} (digit : IsDigit c) : (c - 48).toUInt64.toNat = c.toNat - 48 := by
  have below : (48 : UInt8) ≤ c := UInt8.le_iff_toNat_le.mpr digit.1
  rw [UInt8.toNat_toUInt64, UInt8.toNat_sub_of_le _ _ below]
  rfl

theorem isDigit_iff (c : UInt8) : (c < 48 || c > 57) = true ↔ ¬ IsDigit c := by
  have low : (48 : UInt8).toNat = 48 := rfl
  have high : (57 : UInt8).toNat = 57 := rfl
  rw [Bool.or_eq_true, decide_eq_true_eq, decide_eq_true_eq, gt_iff_lt, UInt8.lt_iff_toNat_lt, UInt8.lt_iff_toNat_lt,
    low, high, IsDigit]
  omega

/-- The guard of the digit loop lets a digit pass exactly when the longer number still is a word. -/
theorem digit_guard {value : UInt64} {c : UInt8} (digit : IsDigit c) :
    ¬ value > (0xFFFFFFFFFFFFFFFF - (c - 48).toUInt64) / 10 ↔ value.toNat * 10 + (c.toNat - 48) < 2 ^ 64 := by
  obtain ⟨least, most⟩ := digit
  have worth := digit_toNat ⟨least, most⟩
  have below : (c - 48).toUInt64 ≤ (0xFFFFFFFFFFFFFFFF : UInt64) := by
    rw [UInt64.le_iff_toNat_le, worth]
    change _ ≤ 0xFFFFFFFFFFFFFFFF
    omega
  have room : ((0xFFFFFFFFFFFFFFFF - (c - 48).toUInt64) / 10 : UInt64).toNat =
      (0xFFFFFFFFFFFFFFFF - (c.toNat - 48)) / 10 := by
    rw [UInt64.toNat_div, UInt64.toNat_sub_of_le _ _ below, worth]
    rfl
  rw [gt_iff_lt, UInt64.lt_iff_toNat_lt, room]
  omega

theorem digit_step {value : UInt64} {c : UInt8} (digit : IsDigit c)
    (room : value.toNat * 10 + (c.toNat - 48) < 2 ^ 64) :
    (value * 10 + (c - 48).toUInt64).toNat = value.toNat * 10 + (c.toNat - 48) := by
  have worth := digit_toNat digit
  have ten : (10 : UInt64).toNat = 10 := rfl
  rw [UInt64.toNat_add, UInt64.toNat_mul, worth, ten]
  omega

theorem parseDigits_iff {value result : UInt64} {digits : Text} :
    parseDigits value digits = some result ↔
      (∀ digit ∈ digits, IsDigit digit) ∧ result.toNat = denoted value.toNat digits := by
  induction digits generalizing value with
  | nil =>
    rw [parseDigits, Option.some.injEq]
    constructor
    · rintro rfl
      exact ⟨by simp, rfl⟩
    · intro ⟨_, same⟩
      exact UInt64.toNat_inj.mp same.symm
  | cons c rest ih =>
    by_cases digit : IsDigit c
    · have passed : ¬ (c < 48 || c > 57) = true := fun other => (isDigit_iff c).mp other digit
      by_cases room : value.toNat * 10 + (c.toNat - 48) < 2 ^ 64
      · rw [parseDigits, if_neg passed]
        simp only [if_neg ((digit_guard digit).mpr room)]
        rw [ih, digit_step digit room, denoted_cons]
        simp [digit]
      · rw [parseDigits, if_neg passed]
        simp only [if_pos (Decidable.of_not_not fun fits => room ((digit_guard digit).mp fits))]
        constructor
        · nofun
        · intro ⟨_, same⟩
          have most := result.toNat_lt
          have least := le_denoted (value.toNat * 10 + (c.toNat - 48)) rest
          rw [denoted_cons] at same
          omega
    · rw [parseDigits, if_pos ((isDigit_iff c).mpr digit)]
      constructor
      · nofun
      · intro ⟨all, _⟩
        exact absurd (all c (by simp)) digit

/-- The number reader accepts exactly one to twenty digits that denote a word, and gives that word. -/
theorem parseU64_iff {value : Text} {result : UInt64} :
    parseU64 value = some result ↔ (1 ≤ value.length ∧ value.length ≤ 20) ∧
      (∀ digit ∈ value, IsDigit digit) ∧ result.toNat = denoted 0 value := by
  by_cases long : 1 ≤ value.length ∧ value.length ≤ 20
  · have passed : ¬ (value.isEmpty || value.length > 20) = true := by
      rw [Bool.or_eq_true, List.isEmpty_iff_length_eq_zero, decide_eq_true_eq]
      omega
    rw [parseU64, if_neg passed, parseDigits_iff, and_iff_right long]
    rfl
  · have refused : (value.isEmpty || value.length > 20) = true := by
      rw [Bool.or_eq_true, List.isEmpty_iff_length_eq_zero, decide_eq_true_eq]
      omega
    rw [parseU64, if_pos refused]
    constructor
    · nofun
    · intro ⟨fits, _⟩
      exact absurd fits long

/-! ### Written numbers -/

private theorem digitChar_byte {n : Nat} (small : n < 10) :
    (Nat.digitChar n).toNat.toUInt8.toNat = 48 + n := by
  have table : ∀ digit : Fin 10, (Nat.digitChar digit).toNat.toUInt8.toNat = 48 + digit := by decide
  exact table ⟨n, small⟩

private theorem denoted_toDigits (n : Nat) :
    (∀ digit ∈ (Nat.toDigits 10 n).map fun digit => digit.toNat.toUInt8, IsDigit digit) ∧
      denoted 0 ((Nat.toDigits 10 n).map fun digit => digit.toNat.toUInt8) = n := by
  induction n using Nat.strongRecOn with
  | ind n ih =>
    by_cases small : n < 10
    · rw [Nat.toDigits_of_lt_base small]
      have byte := digitChar_byte small
      simp only [List.map_cons, List.map_nil, denoted, List.foldl_cons, List.foldl_nil, byte, List.mem_cons,
        List.not_mem_nil, or_false, forall_eq, IsDigit]
      omega
    · obtain ⟨digits, value⟩ := ih (n / 10) (by omega)
      have byte := digitChar_byte (Nat.mod_lt n (by decide : 0 < 10))
      rw [Nat.toDigits_of_base_le (by decide) (by omega), List.map_append, denoted_append, value]
      constructor
      · intro digit member
        rcases List.mem_append.mp member with earlier | last
        · exact digits digit earlier
        · obtain rfl := by simpa using last
          rw [IsDigit, byte]
          omega
      · simp only [List.map_cons, List.map_nil, denoted, List.foldl_cons, List.foldl_nil, byte]
        omega

theorem parseU64_decimal (id : UInt64) : parseU64 (decimal id) = some id := by
  obtain ⟨digits, value⟩ := denoted_toDigits id.toNat
  rw [parseU64_iff]
  refine ⟨?_, digits, value.symm⟩
  rw [decimal, List.length_map]
  exact ⟨Nat.length_toDigits_pos, (Nat.length_toDigits_le_iff (by decide) (by decide)).mpr (Nat.lt_trans id.toNat_lt (by decide))⟩

/-! ### References -/

/-- The kinds the table spells. -/
def ResourceKind.Spelled (kind : ResourceKind) : Prop :=
  ∃ name, (name, kind) ∈ kResourceKinds

theorem parseResourceKind_toText (kind : ResourceKind) : parseResourceKind kind.toText = some kind ↔ kind.Spelled := by
  cases kind with
  | rack | device | port | link | attachment | path =>
    constructor
    · intro _
      simp [ResourceKind.Spelled, kResourceKinds]
    · intro _
      decide
  | unnamed byte fresh =>
    constructor
    · intro found
      cases found
    · rintro ⟨name, member⟩
      simp [kResourceKinds] at member

private theorem kind_text (kind : ResourceKind) : kind.toText ≠ [] ∧ ∀ byte ∈ kind.toText, byte ≠ 58 := by
  have shape : (!kind.toText.isEmpty && kind.toText.all fun byte => byte != 58) = true := by
    cases kind <;> rfl
  rw [Bool.and_eq_true, Bool.not_eq_true', List.isEmpty_eq_false_iff, List.all_eq_true] at shape
  exact ⟨shape.1, fun byte member => bne_iff_ne.mp (shape.2 byte member)⟩

/-- A kind and a number around a colon are read apart at that colon. -/
theorem parseResourceRef_split {kind digits : Text} (spelled : kind ≠ []) (plain : ∀ byte ∈ kind, byte ≠ 58)
    (long : digits ≠ []) : parseResourceRef (kind ++ text ":" ++ digits) =
      match parseResourceKind kind with
      | none => .error ⟨.malformedEncoding, text "unknown resource kind"⟩
      | some named =>
        match parseU64 digits with
        | none => .error ⟨.invalidIdentity, text "resource id must be a positive integer"⟩
        | some id =>
          if id == 0 then .error ⟨.invalidIdentity, text "resource id must be a positive integer"⟩
          else .ok ⟨named, id⟩ := by
  have found : (kind ++ text ":" ++ digits).findIdx? (· == 58) = some kind.length := by
    have clear : kind.findIdx? (· == 58) = none := by
      rw [List.findIdx?_eq_none_iff]
      intro byte member
      exact beq_eq_false_iff_ne.mpr (plain byte member)
    rw [List.append_assoc, List.findIdx?_append, clear]
    change (some 0).map (· + kind.length) = _
    rw [Option.map_some, Nat.zero_add]
  have front := List.length_pos_iff.mpr spelled
  have back := List.length_pos_iff.mpr long
  have total : (kind ++ text ":" ++ digits).length = kind.length + 1 + digits.length := by
    rw [List.length_append, List.length_append]
    rfl
  have passed : ¬ (kind.length == 0 || kind.length + 1 ≥ (kind ++ text ":" ++ digits).length) = true := by
    rw [Bool.or_eq_true, beq_iff_eq, decide_eq_true_eq, total]
    omega
  have before : (kind ++ text ":" ++ digits).take kind.length = kind := by
    rw [List.append_assoc, List.take_left]
  have after : (kind ++ text ":" ++ digits).drop (kind.length + 1) = digits := by
    rw [← List.drop_drop, List.append_assoc, List.drop_left]
    rfl
  rw [parseResourceRef, found]
  simp only [if_neg passed, before, after]

/-- References round-trip as text: what is written is read back exactly where the kind has a name and the id is
positive, and numbers are read exactly up to the largest word. -/
theorem parseResourceRef_toText :
    (∀ ref : ResourceRef, parseResourceRef ref.toText = .ok ref ↔ ref.kind.Spelled ∧ ref.id ≠ 0) ∧
      ∀ (value : Text) (result : UInt64), parseU64 value = some result ↔
        (1 ≤ value.length ∧ value.length ≤ 20) ∧ (∀ digit ∈ value, IsDigit digit) ∧
          result.toNat = denoted 0 value := by
  refine ⟨fun ref => ?_, fun value result => parseU64_iff⟩
  obtain ⟨kind, id⟩ := ref
  have written : decimal id ≠ [] := by
    intro empty
    have read := parseU64_decimal id
    rw [empty] at read
    cases read
  rw [ResourceRef.toText, parseResourceRef_split (kind_text kind).1 (kind_text kind).2 written, parseU64_decimal,
    ← parseResourceKind_toText]
  cases read : parseResourceKind kind.toText with
  | none => simp
  | some named =>
    by_cases zero : id = 0
    · simp [zero]
    · simp [zero]

end RackFabric
