import Mathlib.Algebra.GroupWithZero.Nat
import Std.Data.ExtTreeMap.Lemmas

/-!
Typed outcomes, bounded integers and text.

Texts are the byte strings the runtime stores and compares; a string literal of the source is written
`text "…"`. Machine words are `UInt64`, so every unchecked addition wraps exactly as it does in the source.
-/

namespace RackFabric

abbrev Text := List UInt8

def text (value : String) : Text :=
  value.toUTF8.data.toList

/-- `std::to_string` of an unsigned word. -/
def decimal (value : UInt64) : Text :=
  (Nat.toDigits 10 value.toNat).map fun digit => digit.toNat.toUInt8

def hexDigit (nibble : UInt64) : UInt8 :=
  if nibble < 10 then 48 + nibble.toUInt8 else 87 + nibble.toUInt8

/-- Zero padded lower-case hex of a word, most significant nibble first. -/
def hex64 (value : UInt64) : Text :=
  (List.range 16).map fun i => hexDigit ((value >>> (UInt64.ofNat (4 * (15 - i)))) &&& 0xF)

inductive StatusCode where
  | ok
  | invalidArgument
  | outOfRange
  | malformedEncoding
  | invalidUnicode
  | oversizeField
  | invalidIdentity
  | invalidLifecycleTransition
  | invalidScope
  | notFound
  | duplicateIdentity
  | conflict
  | outOfRack
  | unauthorized
  | refused
  | scopeNotEligible
  | exclusiveConflict
  | capacityExhausted
  | lifecycleRefused
  | notAMember
  | unsupported
  | staleGeneration
  | staleEpoch
  | staleProvenance
  | fencedIncarnation
  | expired
  | superseded
  | replayed
  | unknown
  | incomplete
  | indeterminate
  | cancelled
  | io
  | corrupt
  | truncated
  | integrityFailure
  | incompatibleVersion
  | resourceExhausted
  | busy
  | closed
  | internal
  | unnamed (value : UInt16) (above : 40 < value)
deriving DecidableEq, Repr

/-- The number a status code is written as. -/
def StatusCode.value : StatusCode → UInt16
  | .ok => 0
  | .invalidArgument => 1
  | .outOfRange => 2
  | .malformedEncoding => 3
  | .invalidUnicode => 4
  | .oversizeField => 5
  | .invalidIdentity => 6
  | .invalidLifecycleTransition => 7
  | .invalidScope => 8
  | .notFound => 9
  | .duplicateIdentity => 10
  | .conflict => 11
  | .outOfRack => 12
  | .unauthorized => 13
  | .refused => 14
  | .scopeNotEligible => 15
  | .exclusiveConflict => 16
  | .capacityExhausted => 17
  | .lifecycleRefused => 18
  | .notAMember => 19
  | .unsupported => 20
  | .staleGeneration => 21
  | .staleEpoch => 22
  | .staleProvenance => 23
  | .fencedIncarnation => 24
  | .expired => 25
  | .superseded => 26
  | .replayed => 27
  | .unknown => 28
  | .incomplete => 29
  | .indeterminate => 30
  | .cancelled => 31
  | .io => 32
  | .corrupt => 33
  | .truncated => 34
  | .integrityFailure => 35
  | .incompatibleVersion => 36
  | .resourceExhausted => 37
  | .busy => 38
  | .closed => 39
  | .internal => 40
  | .unnamed value _ => value

structure Status where
  code : StatusCode := .ok
  detail : Text := []
deriving DecidableEq, Repr

/-- Outcome carrying either a value or a status. Functions of the source that return a bare `Status`
return `Result Unit`. -/
abbrev Result (α : Type) := Except Status α

/-- A refusal with the text the operator sees. -/
def refuse (code : StatusCode) (detail : String) : Result α :=
  .error ⟨code, text detail⟩

def Result.isOk : Result α → Bool
  | .ok _ => true
  | .error _ => false

@[simp] theorem Result.isOk_ok (value : α) : Result.isOk (.ok value : Result α) = true := rfl

@[simp] theorem Result.isOk_error (status : Status) : Result.isOk (.error status : Result α) = false := rfl

/-- A call that succeeds with a value on which the test holds. -/
def Result.passes (result : Result α) (test : α → Bool) : Bool :=
  match result with
  | .ok value => test value
  | .error _ => false

theorem Result.exists_of_passes {result : Result α} {test : α → Bool} (held : result.passes test = true) :
    ∃ value, result = .ok value ∧ test value = true := by
  cases result with
  | error status => cases held
  | ok value => exact ⟨value, rfl, held⟩

/-- A sequence of fallible steps succeeds when each of them does. -/
theorem bind_eq_ok {x : Except ε α} {f : α → Except ε β} {b : β} :
    (x >>= f) = .ok b ↔ ∃ a, x = .ok a ∧ f a = .ok b := by
  cases x with
  | error failure => simp [bind, Except.bind]
  | ok a => simp [bind, Except.bind]

/-- A call that returns what `post` says, or is refused with one of these codes. -/
def Result.Ensures (refusals : StatusCode → Prop) (post : α → Prop) : Result α → Prop
  | .ok value => post value
  | .error status => refusals status.code

theorem Result.Ensures.refuse {refusals : StatusCode → Prop} {code : StatusCode} {post : α → Prop}
    (known : refusals code) (detail : String) : Result.Ensures refusals post (refuse code detail) := known

theorem Result.Ensures.mono {refusals also : StatusCode → Prop} {post : α → Prop} {result : Result α}
    (ensures : result.Ensures refusals post) (wider : ∀ code, refusals code → also code) :
    result.Ensures also post := by
  cases result with
  | error refusal => exact wider _ ensures
  | ok value => exact ensures

theorem Result.Ensures.bind {refusals : StatusCode → Prop} {middle : α → Prop} {post : β → Prop} {first : Result α}
    {next : α → Result β} (own : first.Ensures refusals middle)
    (rest : ∀ value, first = .ok value → middle value → (next value).Ensures refusals post) :
    Result.Ensures refusals post (first >>= next) := by
  cases first with
  | error refusal => exact own
  | ok value => exact rest value rfl own

theorem Result.Ensures.foldlM {refusals : StatusCode → Prop} {step : σ → α → Result σ}
    (each : ∀ state value, (step state value).Ensures refusals fun _ => True) (values : List α) (start : σ) :
    Result.Ensures refusals (fun _ => True) (values.foldlM step start) := by
  induction values generalizing start with
  | nil => exact trivial
  | cons value rest ih =>
    rw [List.foldlM_cons]
    exact (each start value).bind fun next _ _ => ih next

def maxU64 : UInt64 := 0xFFFFFFFFFFFFFFFF

/-- The bound is compared as a number: `max - b` does not wrap. -/
def checkedAddU64 (a b : UInt64) : Option UInt64 :=
  if a.toNat > maxU64.toNat - b.toNat then none else some (a + b)

def checkedSubU64 (a b : UInt64) : Option UInt64 :=
  if b > a then none else some (a - b)

theorem checkedAddU64_eq {a b : UInt64} (room : a.toNat + b.toNat < 2 ^ 64) : checkedAddU64 a b = some (a + b) := by
  have top : maxU64.toNat = 2 ^ 64 - 1 := rfl
  rw [checkedAddU64, if_neg]
  omega

/-- A checked sum that is returned is the sum over the natural numbers. -/
theorem checkedAddU64_toNat {a b sum : UInt64} (added : checkedAddU64 a b = some sum) :
    sum.toNat = a.toNat + b.toNat := by
  have top : maxU64.toNat = 2 ^ 64 - 1 := rfl
  simp only [checkedAddU64, Option.ite_none_left_eq_some, Option.some.injEq] at added
  obtain ⟨room, rfl⟩ := added
  have below := a.toNat_lt
  have also := b.toNat_lt
  rw [UInt64.toNat_add]
  omega

theorem checkedSubU64_eq {a b : UInt64} (covers : b.toNat ≤ a.toNat) : checkedSubU64 a b = some (a - b) := by
  rw [checkedSubU64, if_neg]
  simp only [gt_iff_lt, UInt64.lt_iff_toNat_lt]
  omega

/-- A checked difference that is returned is the difference over the natural numbers. -/
theorem checkedSubU64_toNat {a b rest : UInt64} (taken : checkedSubU64 a b = some rest) :
    rest.toNat + b.toNat = a.toNat := by
  simp only [checkedSubU64, Option.ite_none_left_eq_some, Option.some.injEq] at taken
  obtain ⟨covers, rfl⟩ := taken
  have below : b.toNat ≤ a.toNat := by
    simpa only [gt_iff_lt, UInt64.lt_iff_toNat_lt, Nat.not_lt] using covers
  rw [UInt64.toNat_sub_of_le a b (UInt64.le_iff_toNat_le.mpr below)]
  exact Nat.sub_add_cancel below

theorem toNat_sub_of_le {a b : UInt64} (covers : b.toNat ≤ a.toNat) : (a - b).toNat = a.toNat - b.toNat := by
  exact UInt64.toNat_sub_of_le a b (UInt64.le_iff_toNat_le.mpr covers)

end RackFabric
