import RackFabric.Core.Reader

/-!
What a step of the writer does, success and failure alike: it goes on exactly when the writer had not failed, the
fields are acceptable and the bytes fit, and then it has put down exactly those bytes.
-/

namespace RackFabric

namespace ByteWriter

/-- The step from one writer to the next puts down the data, when the fields are acceptable. -/
structure Puts (writer next : ByteWriter) (data : List UInt8) (acceptable : Prop) : Prop where
  limit : next.limit = writer.limit
  ok : next.ok = true ↔ writer.ok = true ∧ acceptable ∧ data.length ≤ writer.limit - writer.size
  buffer : next.ok = true → next.buffer = writer.buffer ++ data

variable {writer middle next : ByteWriter} {data more : List UInt8} {acceptable also : Prop}

theorem Puts.trans (first : Puts writer middle data acceptable) (second : Puts middle next more also) :
    Puts writer next (data ++ more) (acceptable ∧ also) := by
  refine ⟨second.limit.trans first.limit, ?_, ?_⟩
  · rw [second.ok]
    constructor
    · rintro ⟨middleOk, fine, room⟩
      obtain ⟨ok, fineFirst, roomFirst⟩ := first.ok.mp middleOk
      have size : middle.size = writer.size + data.length := by
        rw [size, first.buffer middleOk, List.length_append, size]
      rw [first.limit, size] at room
      refine ⟨ok, ⟨fineFirst, fine⟩, ?_⟩
      rw [List.length_append]
      omega
    · rintro ⟨ok, ⟨fineFirst, fine⟩, room⟩
      rw [List.length_append] at room
      have middleOk : middle.ok = true := first.ok.mpr ⟨ok, fineFirst, by omega⟩
      have size : middle.size = writer.size + data.length := by
        rw [size, first.buffer middleOk, List.length_append, size]
      refine ⟨middleOk, fine, ?_⟩
      rw [first.limit, size]
      omega
  · intro nextOk
    have middleOk := (second.ok.mp nextOk).1
    rw [second.buffer nextOk, first.buffer middleOk, List.append_assoc]

theorem Puts.congr (puts : Puts writer next data acceptable) (same : acceptable ↔ also) :
    Puts writer next data also :=
  ⟨puts.limit, by rw [puts.ok, same], puts.buffer⟩

theorem puts_raw (writer : ByteWriter) (data : List UInt8) : Puts writer (writer.raw data) data True := by
  by_cases blocked : (!writer.ok || data.length > writer.limit - writer.buffer.length) = true
  · rw [raw, if_pos blocked]
    refine ⟨rfl, ?_, nofun⟩
    simp only [Bool.or_eq_true, Bool.not_eq_true', decide_eq_true_eq] at blocked
    simp only [Bool.false_eq_true, true_and, size, false_iff, not_and, Nat.not_le]
    intro ok
    rcases blocked with failed | full
    · rw [ok] at failed
      cases failed
    · exact full
  · rw [raw, if_neg blocked]
    simp only [Bool.or_eq_true, Bool.not_eq_true', decide_eq_true_eq, not_or, Bool.not_eq_false] at blocked
    exact ⟨rfl, ⟨fun _ => ⟨blocked.1, trivial, Nat.not_lt.mp blocked.2⟩, fun _ => blocked.1⟩, fun _ => rfl⟩

private theorem Puts.after (first : Puts writer middle data True) (second : Puts middle next more acceptable) :
    Puts writer next (data ++ more) acceptable :=
  (first.trans second).congr (by simp)

theorem Puts.u8 {v : UInt8} (then_ : Puts (writer.u8 v) next data acceptable) :
    Puts writer next ([v] ++ data) acceptable :=
  (puts_raw writer [v]).after then_

theorem Puts.u16 {v : UInt16} (then_ : Puts (writer.u16 v) next data acceptable) :
    Puts writer next (le16 v ++ data) acceptable :=
  (puts_raw writer (le16 v)).after then_

theorem Puts.u32 {v : UInt32} (then_ : Puts (writer.u32 v) next data acceptable) :
    Puts writer next (le32 v ++ data) acceptable :=
  (puts_raw writer (le32 v)).after then_

theorem Puts.u64 {v : UInt64} (then_ : Puts (writer.u64 v) next data acceptable) :
    Puts writer next (Blake2s256.le64 v ++ data) acceptable :=
  (puts_raw writer (Blake2s256.le64 v)).after then_

theorem Puts.boolean {v : Bool} (then_ : Puts (writer.boolean v) next data acceptable) :
    Puts writer next ([if v then 1 else 0] ++ data) acceptable :=
  (puts_raw writer [if v then 1 else 0]).after then_

theorem Puts.digest {value : Digest} (then_ : Puts (writer.digest value) next data acceptable) :
    Puts writer next (value.bytes ++ data) acceptable :=
  (puts_raw writer value.bytes).after then_

/-- A text is acceptable when it is well formed and within its bound. -/
theorem puts_text (writer : ByteWriter) (value : Text) {maxLen : Nat} (counted : maxLen < 2 ^ 32) :
    Puts writer (writer.text value maxLen) (ByteReader.blobBytes value)
      (isValidUtf8 value = true ∧ value.length ≤ maxLen) := by
  unfold text
  split
  · rename_i invalid
    refine ⟨rfl, ?_, nofun⟩
    simp only [Bool.not_eq_true'] at invalid
    simp [invalid]
  · rename_i valid
    unfold blob
    split
    · rename_i long
      refine ⟨rfl, ?_, nofun⟩
      simp only [Bool.or_eq_true, decide_eq_true_eq] at long
      have beyond : ¬ value.length ≤ maxLen := by omega
      simp [beyond]
    · rename_i short
      simp only [Bool.or_eq_true, decide_eq_true_eq, not_or, Nat.not_lt] at short
      refine (Puts.u32 (puts_raw _ value)).congr ?_
      simp only [Bool.not_eq_true', Bool.not_eq_false] at valid
      simp [valid, short.1]

/-- What the writer's list writes. -/
def listBytes {α : Type} (items : α → List UInt8) (values : List α) : List UInt8 :=
  le32 (UInt32.ofNat values.length) ++ values.flatMap items

theorem length_listBytes_le {α : Type} {items : α → List UInt8} {values : List α} {most : Nat}
    (each : ∀ value ∈ values, (items value).length ≤ most) :
    (listBytes items values).length ≤ 4 + values.length * most := by
  have body : ∀ values : List α, (∀ value ∈ values, (items value).length ≤ most) →
      (values.flatMap items).length ≤ values.length * most := by
    intro values
    induction values with
    | nil => simp
    | cons value rest ih =>
      intro each
      obtain ⟨first, later⟩ := List.forall_mem_cons.mp each
      have smaller := ih later
      rw [List.flatMap_cons, List.length_append, List.length_cons, Nat.succ_mul]
      omega
  have smaller := body values each
  rw [listBytes, List.length_append, length_le32]
  omega

theorem puts_foldl {α : Type} {element : ByteWriter → α → ByteWriter} {items : α → List UInt8} {fits : α → Prop}
    (puts : ∀ writer value, Puts writer (element writer value) (items value) (fits value)) (values : List α)
    (writer : ByteWriter) :
    Puts writer (values.foldl element writer) (values.flatMap items) (∀ value ∈ values, fits value) := by
  induction values generalizing writer with
  | nil => exact ⟨rfl, by simp, by simp⟩
  | cons value rest ih =>
    refine ((puts writer value).trans (ih (element writer value))).congr ?_
    simp

theorem Puts.list {α : Type} {element : ByteWriter → α → ByteWriter} {items : α → List UInt8} {fits : α → Prop}
    {values : List α} (puts : ∀ writer value, Puts writer (element writer value) (items value) (fits value))
    (then_ : Puts (writer.list values element) next data acceptable) :
    Puts writer next (listBytes items values ++ data) ((∀ value ∈ values, fits value) ∧ acceptable) :=
  (Puts.u32 (puts_foldl puts values _)).trans then_

theorem Puts.text {value : Text} {maxLen : Nat} (counted : maxLen < 2 ^ 32)
    (then_ : Puts (writer.text value maxLen) next data acceptable) :
    Puts writer next (ByteReader.blobBytes value ++ data)
      ((isValidUtf8 value = true ∧ value.length ≤ maxLen) ∧ acceptable) :=
  (puts_text writer value counted).trans then_

theorem puts_list {α : Type} {element : ByteWriter → α → ByteWriter} {items : α → List UInt8} {fits : α → Prop}
    (puts : ∀ writer value, Puts writer (element writer value) (items value) (fits value)) (writer : ByteWriter)
    (values : List α) :
    Puts writer (writer.list values element) (listBytes items values) (∀ value ∈ values, fits value) :=
  Puts.u32 (puts_foldl puts values _)

/-! ### Encoders that may fail -/

/-- The encoder puts down the data, or reports that it could not. -/
def Encodes (encode : ByteWriter → Result ByteWriter) (data : List UInt8) (acceptable : Prop) : Prop :=
  ∀ writer, ∃ next, Puts writer next data acceptable ∧
    (encode writer = .ok next ∨ next.ok = false ∧ ∃ status, encode writer = .error status)

namespace Encodes

variable {encode then_ : ByteWriter → Result ByteWriter}

theorem congr (encodes : Encodes encode data acceptable) (same : acceptable ↔ also) : Encodes encode data also := by
  intro writer
  obtain ⟨next, puts, result⟩ := encodes writer
  exact ⟨next, puts.congr same, result⟩

theorem put {step : ByteWriter → ByteWriter} (puts : ∀ writer, Puts writer (step writer) data acceptable) :
    Encodes (fun writer => .ok (step writer)) data acceptable :=
  fun writer => ⟨step writer, puts writer, .inl rfl⟩

theorem bind (first : Encodes encode data acceptable) (second : Encodes then_ more also) :
    Encodes (fun writer => encode writer >>= then_) (data ++ more) (acceptable ∧ also) := by
  intro writer
  obtain ⟨middle, puts, result⟩ := first writer
  obtain ⟨next, putsMore, resultMore⟩ := second middle
  refine ⟨next, puts.trans putsMore, ?_⟩
  rcases result with encoded | ⟨failed, status, refused⟩
  · simp only [encoded]
    exact resultMore
  · refine .inr ⟨?_, status, by simp only [refused]; rfl⟩
    by_contra ok
    have middleOk := (putsMore.ok.mp (by simpa using ok)).1
    rw [failed] at middleOk
    cases middleOk

/-- The look at the writer that ends an encoder. -/
theorem check (code : StatusCode) (detail : String) :
    Encodes (fun writer => if !writer.ok then refuse code detail else .ok writer) [] True := by
  intro writer
  refine ⟨writer, ⟨rfl, by simp, by simp⟩, ?_⟩
  cases working : writer.ok with
  | true => exact .inl (by simp [working])
  | false => exact .inr ⟨rfl, ⟨code, RackFabric.text detail⟩, by simp [working, refuse]⟩

/-- Plain writes in front of an encoder. -/
theorem following {step : ByteWriter → ByteWriter} (puts : ∀ writer, Puts writer (step writer) data True)
    (encodes : Encodes encode more acceptable) :
    Encodes (fun writer => encode (step writer)) (data ++ more) acceptable :=
  ((put puts).bind encodes).congr (by simp)

/-- Encoding a list entry by entry. -/
theorem each {α : Type} {entry : α → ByteWriter → Result ByteWriter} {items : α → List UInt8} {fits : α → Prop}
    (encodes : ∀ value, Encodes (entry value) (items value) (fits value)) (values : List α) :
    Encodes (fun writer => values.foldlM (fun writer value => entry value writer) writer) (values.flatMap items)
      (∀ value ∈ values, fits value) := by
  induction values with
  | nil => exact fun writer => ⟨writer, ⟨rfl, by simp, by simp⟩, .inl rfl⟩
  | cons value rest ih =>
    refine ((encodes value).bind ih).congr ?_
    simp

/-- What an encoder that is acceptable and has room writes. -/
theorem succeeds (encodes : Encodes encode data acceptable) (fine : acceptable) {limit : Nat}
    (room : data.length ≤ limit) : ∃ written, encode { limit := limit } = .ok written ∧ written.buffer = data := by
  obtain ⟨next, puts, result⟩ := encodes { limit := limit }
  have ok : next.ok = true := puts.ok.mpr ⟨rfl, fine, room⟩
  rcases result with encoded | ⟨failed, -⟩
  · exact ⟨next, encoded, by simpa using puts.buffer ok⟩
  · rw [ok] at failed
    cases failed

end Encodes

end ByteWriter

end RackFabric
