import RackFabric.Net.Protocol
import RackFabric.Compose.SnapshotCodec

/-!
Encoders that end in a working writer and decoders that ask for the end of the body, and the parts that the
messages of the protocol share.
-/

namespace RackFabric

open Foundation ByteReader ByteWriter

/-! ### Encoders and decoders of whole messages -/

/-- An encoder that puts down the data and ends in a working writer. -/
structure Seals (encode : ByteWriter → Result ByteWriter) (data : List UInt8) (acceptable : Prop) : Prop where
  encodes : Encodes encode data acceptable
  working : ∀ writer next, encode writer = .ok next → next.ok = true

namespace Seals

variable {encode then_ : ByteWriter → Result ByteWriter} {data more : List UInt8} {acceptable also : Prop}

theorem finish {step : ByteWriter → ByteWriter} (puts : ∀ writer, Puts writer (step writer) data acceptable) :
    Seals (fun writer => RackFabric.finish (step writer)) data acceptable where
  encodes := by
    have encodes := (Encodes.put puts).bind (Encodes.check .oversizeField "message exceeds its encoding bound")
    rw [List.append_nil] at encodes
    exact encodes.congr (by simp)
  working writer next encoded := by
    unfold RackFabric.finish at encoded
    split at encoded
    · cases encoded
    · rename_i working
      cases encoded
      simpa using working

theorem congr (seals : Seals encode data acceptable) (sameData : more = data) (same : acceptable ↔ also) :
    Seals encode more also := by
  subst sameData
  exact ⟨seals.encodes.congr same, seals.working⟩

theorem after (first : Encodes encode data acceptable) (second : Seals then_ more also) :
    Seals (fun writer => encode writer >>= then_) (data ++ more) (acceptable ∧ also) where
  encodes := first.bind second.encodes
  working writer next encoded := by
    obtain ⟨middle, -, rest⟩ := bind_eq_ok.mp encoded
    exact second.working middle next rest

theorem written (seals : Seals encode data acceptable) {limit : Nat} {next : ByteWriter}
    (encoded : encode { limit := limit } = .ok next) : next.buffer = data := by
  obtain ⟨other, puts, result⟩ := seals.encodes { limit := limit }
  have working := seals.working _ _ encoded
  rcases result with same | ⟨-, status, refused⟩
  · rw [encoded, Except.ok.injEq] at same
    subst same
    simpa using puts.buffer working
  · rw [encoded] at refused
    cases refused

end Seals

/-- A decoder that takes a message from its bytes, and from nothing shorter or longer. -/
structure Opens (decode : Decoding α) (items : α → List UInt8) (fits : α → Prop) : Prop where
  reads : ∀ message, fits message → decode (items message) = .ok (message, [])
  short : ∀ message, fits message → ∀ front back, front ++ back = items message → back ≠ [] →
    ∃ status, decode front = .error status
  long : ∀ message, fits message → ∀ more, more ≠ [] → ∃ status, decode (items message ++ more) = .error status

theorem whole_ok_iff {body : Decoding α} {input rest : List UInt8} {message : α} :
    whole body input = .ok (message, rest) ↔ body input = .ok (message, []) ∧ rest = [] := by
  show (body input >>= fun pair => trailing pair.2 >>= fun ended => pure (pair.1, ended.2)) = _ ↔ _
  rw [bind_eq_ok]
  constructor
  · rintro ⟨⟨value, left⟩, read, ended⟩
    unfold trailing at ended
    split at ended
    · cases ended
    · rename_i empty
      rw [ne_eq, Decidable.not_not] at empty
      cases ended
      subst empty
      exact ⟨read, rfl⟩
  · rintro ⟨read, rfl⟩
    exact ⟨(message, []), read, rfl⟩

/-- A body that is read exactly is opened exactly once nothing may follow it, whatever is then made of it. -/
theorem Opens.load {wire : Type} {body : Decoding wire} {spell : wire → List UInt8} {sound : wire → Prop}
    {items : α → List UInt8} {fits : α → Prop} (exact_ : Exact body spell sound) (load : wire → α)
    (wires : ∀ message, fits message → ∃ value, sound value ∧ load value = message ∧ spell value = items message) :
    Opens (whole (body >>= fun value => pure (load value))) items fits := by
  have returns : ∀ {input : List UInt8} {result : α × List UInt8},
      whole (body >>= fun value => pure (load value)) input = .ok result →
      ∃ value, sound value ∧ input = spell value := by
    rintro input ⟨message, rest⟩ opened
    obtain ⟨read, -⟩ := whole_ok_iff.mp opened
    obtain ⟨⟨value, left⟩, taken, made⟩ := bind_eq_ok.mp read
    obtain ⟨holds, rfl⟩ := exact_.returns_iff.mp taken
    cases made
    exact ⟨value, holds, List.append_nil _⟩
  refine ⟨?_, ?_, ?_⟩
  · intro message holds
    obtain ⟨value, valueSound, rfl, spelled⟩ := wires message holds
    refine whole_ok_iff.mpr ⟨?_, rfl⟩
    have read := exact_.reads value valueSound []
    rw [List.append_nil] at read
    rw [← spelled]
    exact bind_eq_ok.mpr ⟨(value, []), read, rfl⟩
  · intro message holds front back split proper
    obtain ⟨value, valueSound, -, spelled⟩ := wires message holds
    cases opened : whole (body >>= fun value => pure (load value)) front with
    | error status => exact ⟨status, rfl⟩
    | ok result =>
      obtain ⟨other, otherSound, rfl⟩ := returns opened
      rw [← spelled] at split
      exact absurd (exact_.prefixFree otherSound valueSound split) proper
  · intro message holds more proper
    obtain ⟨value, valueSound, -, spelled⟩ := wires message holds
    cases opened : whole (body >>= fun value => pure (load value)) (items message ++ more) with
    | error status => exact ⟨status, rfl⟩
    | ok result =>
      obtain ⟨other, otherSound, same⟩ := returns opened
      rw [← spelled] at same
      exact absurd (exact_.prefixFree valueSound otherSound same) proper

theorem Opens.whole {body : Decoding α} {items : α → List UInt8} {fits : α → Prop} (exact_ : Exact body items fits) :
    Opens (RackFabric.whole body) items fits := by
  have opens := Opens.load exact_ id fun message holds => ⟨message, holds, rfl, rfl⟩
  rwa [show (body >>= fun value => pure (id value)) = body from bind_pure body] at opens

theorem Opens.weaken {decode : Decoding α} {items : α → List UInt8} {fits narrow : α → Prop}
    (opens : Opens decode items fits) (implies : ∀ message, narrow message → fits message) :
    Opens decode items narrow where
  reads message holds := opens.reads message (implies message holds)
  short message holds := opens.short message (implies message holds)
  long message holds := opens.long message (implies message holds)

/-! ### Parts that messages share -/

/-- The kinds a reference on the wire may have. -/
def ResourceKind.Known (kind : ResourceKind) : Prop :=
  1 ≤ kind.code ∧ kind.code ≤ 6

theorem exact_getRef : Exact getRef refBytes fun ref => ref.kind.Known where
  reads ref known := by
    refine (exact_u8.reads ref.kind.code trivial).bind ((exact_u64.reads ref.id trivial).closed ?_)
    have accepted : 1 ≤ ref.kind.code ∧ ref.kind.code ≤ 6 := known
    rw [if_pos accepted, ResourceKind.ofCode_code]
    exact Reads.done ref
  takes := by
    apply exact_u8.takes.bind
    rintro _ kind ⟨rfl, -⟩
    apply exact_u64.takes.bind
    rintro _ id ⟨rfl, -⟩
    split
    · rename_i known
      apply Takes.done
      rw [ResourceKind.Known, ResourceKind.code_ofCode]
      exact ⟨by simp [refBytes], known⟩
    · intro input value rest returned
      cases returned

def Detail (detail : Text) : Prop :=
  ShortText kLimits.maxDetailText detail

theorem exact_detail : Exact getDetail blobBytes Detail :=
  exact_text (by decide)

/-- A check of what was read, before a message is made of it. -/
theorem exact_require {wire : Type} {body : Decoding wire} {items : wire → List UInt8} {fits : wire → Prop}
    (exact_ : Exact body items fits) (holds : wire → Bool) (code : StatusCode) (detail : String) (make : wire → α)
    (part : α → wire) (whole : ∀ value message, part message = value ↔ message = make value) :
    Exact (do
      let value ← body
      require (holds value) code detail
      pure (make value)) (fun message => items (part message))
      fun message => fits (part message) ∧ holds (part message) = true where
  reads message fine := by
    refine (exact_.reads (part message) fine.1).closed ?_
    rw [require, if_pos fine.2, ← (whole _ message).mp rfl]
    exact Reads.done message
  takes := by
    apply exact_.takes.bind
    rintro _ value ⟨rfl, valueFits⟩
    have made : part (make value) = value := (whole value _).mpr rfl
    by_cases held : holds value = true
    · rw [require, if_pos held]
      apply Takes.done
      rw [made]
      exact ⟨List.append_nil _, valueFits, held⟩
    · rw [require, if_neg held]
      intro input message rest returned
      cases returned

theorem exact_getEach {entry : Decoding α} {items : α → List UInt8} {fits : α → Prop} {maxCount : Nat}
    (exact_ : Exact entry items fits) (counted : maxCount < 2 ^ 32) (overfull : String) :
    Exact (getEach maxCount overfull entry) (listBytes items)
      fun entries => entries.length ≤ maxCount ∧ ∀ value ∈ entries, fits value :=
  exact_.counted (exact_expect (exact_count counted) _ _)

theorem puts_ref (writer : ByteWriter) (ref : ResourceRef) : Puts writer (putRef writer ref) (refBytes ref) True :=
  Puts.u8 (puts_raw _ _)

theorem Puts.ref {writer next : ByteWriter} {ref : ResourceRef} {data : List UInt8} {acceptable : Prop}
    (then_ : Puts (putRef writer ref) next data acceptable) : Puts writer next (refBytes ref ++ data) acceptable :=
  ((puts_ref writer ref).trans then_).congr (by simp)

theorem puts_detail (writer : ByteWriter) (detail : Text) :
    Puts writer (putDetail writer detail) (blobBytes detail) (Detail detail) :=
  puts_text writer detail (by decide)

theorem encodes_each {entry : α → ByteWriter → Result ByteWriter} {items : α → List UInt8} {fits : α → Prop}
    (encodes : ∀ value, Encodes (entry value) (items value) (fits value)) (entries : List α) :
    Encodes (fun writer => putEach entry entries (putCount writer entries)) (listBytes items entries)
      (∀ value ∈ entries, fits value) := by
  have counted : Encodes (fun writer => .ok (putCount writer entries)) (le32 (.ofNat entries.length)) True :=
    Encodes.put fun writer => puts_raw writer _
  exact (counted.bind (Encodes.each encodes entries)).congr (by simp)

end RackFabric
