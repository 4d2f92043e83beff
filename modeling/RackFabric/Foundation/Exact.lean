import RackFabric.Foundation.Codec

/-!
Readers that accept one spelling of each value. Such a reader reads back what is written for a value it can carry,
and whatever it accepts is what would be written for the value it returns, so that its language is free of
prefixes and no two values share a spelling.
-/

namespace Foundation

universe u

/-- Monads in which a computation that returns is made of parts that return. -/
class Returns (m : Type → Type u) [Monad m] : Prop where
  bind_eq_pure : ∀ {α γ : Type} {first : m α} {next : α → m γ} {result : γ},
    first >>= next = pure result → ∃ value, first = pure value ∧ next value = pure result
  pure_injective : ∀ {α : Type} {a b : α}, (pure a : m α) = pure b → a = b

instance : Returns Option where
  bind_eq_pure returns := Option.bind_eq_some_iff.mp returns
  pure_injective same := Option.some.inj same

instance {ε : Type u} : Returns (Except ε) where
  bind_eq_pure {_ _ first _ _} returns := by
    cases first with
    | error failure => cases returns
    | ok value => exact ⟨value, rfl, returns⟩
  pure_injective same := Except.ok.inj same

variable {β α γ : Type} {m : Type → Type u} [Monad m]

/-- Whenever the reader returns, what it took and what it returns are related. -/
def Takes (reader : StateT (List β) m α) (relation : List β → α → Prop) : Prop :=
  ∀ input value rest, reader input = pure (value, rest) → ∃ items, input = items ++ rest ∧ relation items value

namespace Takes

variable [Returns m] {reader : StateT (List β) m α} {relation : List β → α → Prop}

theorem done {value : α} (holds : relation [] value) : Takes (pure value : StateT (List β) m α) relation := by
  intro input result rest returned
  have same : (value, input) = (result, rest) := Returns.pure_injective returned
  cases same
  exact ⟨[], rfl, holds⟩

theorem bind {next : α → StateT (List β) m γ} {then_ : List β → γ → Prop} (first : Takes reader relation)
    (second : ∀ items value, relation items value → Takes (next value) fun more => then_ (items ++ more)) :
    Takes (reader >>= next) then_ := by
  intro input result rest returned
  obtain ⟨⟨value, middle⟩, read, continued⟩ := Returns.bind_eq_pure returned
  obtain ⟨items, rfl, related⟩ := first _ _ _ read
  obtain ⟨more, rfl, holds⟩ := second items value related _ _ _ continued
  exact ⟨items ++ more, (List.append_assoc _ _ _).symm, holds⟩

omit [Returns m] in
theorem mono {weaker : List β → α → Prop} (takes : Takes reader relation)
    (implies : ∀ items value, relation items value → weaker items value) : Takes reader weaker := by
  intro input value rest returned
  obtain ⟨items, split, related⟩ := takes input value rest returned
  exact ⟨items, split, implies items value related⟩

end Takes

/-- The reader accepts exactly the spellings of the values that fit, each in front of anything. -/
structure Exact (reader : StateT (List β) m α) (items : α → List β) (fits : α → Prop) : Prop where
  reads : ∀ value, fits value → Reads reader (items value) value
  takes : Takes reader fun taken value => taken = items value ∧ fits value

namespace Exact

variable {reader : StateT (List β) m α} {items : α → List β} {fits : α → Prop}

theorem congr {fits' : α → Prop} (exact_ : Exact reader items fits) (same : ∀ value, fits value ↔ fits' value) :
    Exact reader items fits' where
  reads value holds := exact_.reads value ((same value).mpr holds)
  takes := exact_.takes.mono fun _ value held => ⟨held.1, (same value).mp held.2⟩

theorem returns_iff (exact_ : Exact reader items fits) {input rest : List β} {value : α} :
    reader input = pure (value, rest) ↔ fits value ∧ input = items value ++ rest := by
  constructor
  · intro returned
    obtain ⟨taken, rfl, rfl, holds⟩ := exact_.takes input value rest returned
    exact ⟨holds, rfl⟩
  · rintro ⟨holds, rfl⟩
    exact exact_.reads value holds rest

/-- Values with one spelling are one value. -/
theorem injective [Returns m] (exact_ : Exact reader items fits) {first second : α} (holds : fits first)
    (also : fits second) (same : items first = items second) : first = second := by
  have one := exact_.reads first holds []
  have other := exact_.reads second also []
  rw [same, other] at one
  exact (congrArg Prod.fst (Returns.pure_injective one)).symm

/-- A spelling cut short is not accepted. -/
theorem cut [Returns m] (exact_ : Exact reader items fits) {value : α} (holds : fits value) {front back : List β}
    (split : front ++ back = items value) (proper : back ≠ []) (result : α × List β) :
    reader front ≠ pure result := by
  intro returned
  obtain ⟨other, rest⟩ := result
  obtain ⟨otherFits, rfl⟩ := exact_.returns_iff.mp returned
  have whole := exact_.reads value holds []
  have longer := exact_.reads other otherFits (rest ++ back)
  rw [List.append_nil, ← split, List.append_assoc, longer] at whole
  have empty : rest ++ back = [] := congrArg Prod.snd (Returns.pure_injective whole)
  exact proper (List.append_eq_nil_iff.mp empty).2

/-- No spelling continues another. -/
theorem prefixFree [Returns m] (exact_ : Exact reader items fits) {first second : α} (holds : fits first)
    (also : fits second) {back : List β} (split : items first ++ back = items second) : back = [] := by
  by_contra proper
  refine exact_.cut also split proper (first, []) ?_
  have read := exact_.reads first holds []
  rwa [List.append_nil] at read

/-- Begins the reading of a structure: nothing of it is known yet. -/
theorem start {fits : γ → Prop} {reader : StateT (List β) m γ} {items : γ → List β}
    (rest : Exact reader items fun value => True ∧ fits value) : Exact reader items fits :=
  rest.congr fun _ => by simp

/-- The same for a structure whose last part is not one that must fit. -/
theorem startPart {fits : γ → Prop} {reader : StateT (List β) m γ} {items : γ → List β}
    (rest : Exact reader items fun value => True ∧ fits value ∧ True) : Exact reader items fits :=
  rest.congr fun _ => by simp

section Fields

variable [LawfulMonad m] [Returns m] {first : StateT (List β) m α} {next : α → StateT (List β) m γ}
  {more : γ → List β} {known rest : γ → Prop}

/-- Reads one part of a structure, about which later parts then know it. -/
theorem part (part : γ → α) (outer : Exact first items fits)
    (inner : ∀ a, Exact (next a) more fun value => (known value ∧ part value = a) ∧ rest value) :
    Exact (first >>= next) (fun value => items (part value) ++ more value)
      fun value => known value ∧ fits (part value) ∧ rest value where
  reads value holds :=
    (outer.reads _ holds.2.1).bind ((inner _).reads value ⟨⟨holds.1, rfl⟩, holds.2.2⟩)
  takes := by
    apply outer.takes.bind
    rintro taken a ⟨rfl, partFits⟩
    refine (inner a).takes.mono ?_
    rintro further value ⟨rfl, ⟨held, rfl⟩, later⟩
    exact ⟨rfl, held, partFits, later⟩

/-- A part whose every value fits. -/
theorem field (part : γ → α) (outer : Exact first items fun _ => True)
    (inner : ∀ a, Exact (next a) more fun value => (known value ∧ part value = a) ∧ rest value) :
    Exact (first >>= next) (fun value => items (part value) ++ more value) fun value => known value ∧ rest value :=
  (Exact.part part outer inner).congr fun _ => by simp

/-- The last part: together with it everything is known. -/
theorem lastPart (part : γ → α) (make : α → γ) (outer : Exact first items fits)
    (whole : ∀ a value, known value ∧ part value = a ↔ value = make a) :
    Exact (first >>= fun a => pure (make a)) (fun value => items (part value))
      fun value => known value ∧ fits (part value) where
  reads value holds := by
    have same : value = make (part value) := (whole _ value).mp ⟨holds.1, rfl⟩
    have read : Reads (first >>= fun a => pure (make a)) (items (part value)) (make (part value)) :=
      (outer.reads _ holds.2).last
    rwa [← same] at read
  takes := by
    apply outer.takes.bind
    rintro taken a ⟨rfl, partFits⟩
    apply Takes.done
    obtain ⟨held, same⟩ := (whole a (make a)).mpr rfl
    rw [List.append_nil, same]
    exact ⟨rfl, held, partFits⟩

theorem lastField (part : γ → α) (make : α → γ) (outer : Exact first items fun _ => True)
    (whole : ∀ a value, known value ∧ part value = a ↔ value = make a) :
    Exact (first >>= fun a => pure (make a)) (fun value => items (part value)) fun value => known value ∧ True :=
  Exact.lastPart part make outer whole

end Fields

/-- A run of a known number of elements. -/
theorem many [LawfulMonad m] [Returns m] (exact_ : Exact reader items fits) (n : Nat) :
    Exact (readMany reader n) (fun values => values.flatMap items)
      fun values => values.length = n ∧ ∀ value ∈ values, fits value where
  reads values holds := by
    have read := Reads.many fun value member => exact_.reads value (holds.2 value member)
    rwa [holds.1] at read
  takes := by
    induction n with
    | zero => exact Takes.done ⟨rfl, rfl, nofun⟩
    | succ n ih =>
      apply exact_.takes.bind
      rintro taken value ⟨rfl, valueFits⟩
      apply ih.bind
      rintro further values ⟨rfl, counted, allFit⟩
      apply Takes.done
      refine ⟨by simp, by simp [counted], ?_⟩
      intro other member
      rcases List.mem_cons.mp member with rfl | later
      · exact valueFits
      · exact allFit other later

/-- A run whose length is read first. -/
theorem counted [LawfulMonad m] [Returns m] {counter : StateT (List β) m Nat} {spelled : Nat → List β} {bound : Nat}
    (exact_ : Exact reader items fits) (counts : Exact counter spelled (· ≤ bound)) :
    Exact (readCounted counter reader) (fun values => spelled values.length ++ values.flatMap items)
      fun values => values.length ≤ bound ∧ ∀ value ∈ values, fits value := by
  apply Exact.start
  refine Exact.part List.length counts fun n => ?_
  exact (exact_.many n).congr fun values => by simp

theorem countedAll [LawfulMonad m] [Returns m] {counter : StateT (List β) m Nat} {spelled : Nat → List β} {bound : Nat}
    (exact_ : Exact reader items fun _ => True) (counts : Exact counter spelled (· ≤ bound)) :
    Exact (readCounted counter reader) (fun values => spelled values.length ++ values.flatMap items)
      fun values => values.length ≤ bound :=
  (exact_.counted counts).congr fun _ => by simp

end Exact

end Foundation
