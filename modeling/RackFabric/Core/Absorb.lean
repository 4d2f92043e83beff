import RackFabric.Core.Hash

/-!
The hash depends on its input and not on the pieces it is fed in.
-/

namespace RackFabric

namespace Blake2s256

/-- Takes one more byte. -/
def absorb (state : State) (byte : UInt8) : State :=
  { flush state with buffer := (flush state).buffer ++ [byte] }

theorem flush_buffer {state : State} (bounded : state.buffer.length ≤ kBlockBytes) :
    (flush state).buffer.length < kBlockBytes := by
  unfold flush
  split
  · exact (by decide : 0 < kBlockBytes)
  · omega

theorem flush_of_room {state : State} (room : state.buffer.length < kBlockBytes) : flush state = state := by
  unfold flush
  rw [if_neg (by omega)]

/-- Bytes that fit the buffer are taken one by one as they are taken together. -/
theorem foldl_absorb_fits {state : State} {data : List UInt8} (room : state.buffer.length < kBlockBytes)
    (fits : state.buffer.length + data.length ≤ kBlockBytes) :
    data.foldl absorb state = { state with buffer := state.buffer ++ data } := by
  induction data generalizing state with
  | nil => simp
  | cons byte rest ih =>
    rw [List.foldl_cons, absorb, flush_of_room room]
    rw [List.length_cons] at fits
    by_cases last : rest = []
    · subst last
      rfl
    · have more : 0 < rest.length := List.length_pos_iff.mpr last
      rw [ih (by simp; omega) (by simp; omega)]
      simp

theorem foldl_absorb_buffer {state : State} {data : List UInt8} (bounded : state.buffer.length ≤ kBlockBytes) :
    (data.foldl absorb state).buffer.length ≤ kBlockBytes := by
  induction data generalizing state with
  | nil => exact bounded
  | cons byte rest ih =>
    apply ih
    have room := flush_buffer bounded
    simp only [absorb, List.length_append, List.length_cons, List.length_nil]
    omega

/-- The first byte flushes a full buffer. -/
theorem foldl_absorb_flush {state : State} {data : List UInt8} (bounded : state.buffer.length ≤ kBlockBytes)
    (some : data ≠ []) : data.foldl absorb (flush state) = data.foldl absorb state := by
  cases data with
  | nil => exact absurd rfl some
  | cons byte rest =>
    have first : absorb (flush state) byte = absorb state byte := by
      rw [absorb, flush_of_room (flush_buffer bounded)]
      rfl
    rw [List.foldl_cons, List.foldl_cons, first]

theorem updateLoop_eq_foldl {fuel : Nat} {state : State} {data : List UInt8} (enough : data.length ≤ fuel)
    (bounded : state.buffer.length ≤ kBlockBytes) : updateLoop fuel state data = data.foldl absorb state := by
  induction fuel generalizing state data with
  | zero =>
    have none : data = [] := List.length_eq_zero_iff.mp (by omega)
    rw [none]
    rfl
  | succ fuel ih =>
    cases data with
    | nil => rfl
    | cons byte rest =>
      have room := flush_buffer bounded
      generalize whole : byte :: rest = data at enough ⊢
      have some : data ≠ [] := by
        rw [← whole]
        simp
      have unfolded : updateLoop (fuel + 1) state data =
          updateLoop fuel { flush state with
            buffer := (flush state).buffer ++ data.take (min data.length (kBlockBytes - (flush state).buffer.length)) }
            (data.drop (min data.length (kBlockBytes - (flush state).buffer.length))) := by
        rw [updateLoop, if_neg (by simpa using some)]
      rw [unfolded]
      generalize taken : min data.length (kBlockBytes - (flush state).buffer.length) = count
      have positive : 0 < count := by
        have length := List.length_pos_iff.mpr some
        omega
      have started : data.take count ≠ [] := by
        intro none
        have length := congrArg List.length none
        rw [List.length_take, List.length_nil] at length
        omega
      have fits : (flush state).buffer.length + (data.take count).length ≤ kBlockBytes := by
        rw [List.length_take]
        omega
      have chunk := foldl_absorb_fits room fits
      rw [← chunk, foldl_absorb_flush bounded started, ih ?_ (foldl_absorb_buffer bounded), ← List.foldl_append,
        List.take_append_drop]
      rw [List.length_drop]
      omega

theorem update_eq_foldl {state : State} (bounded : state.buffer.length ≤ kBlockBytes) (data : List UInt8) :
    update state data = data.foldl absorb state :=
  updateLoop_eq_foldl (Nat.le_refl _) bounded

theorem update_append {state : State} (bounded : state.buffer.length ≤ kBlockBytes) (first second : List UInt8) :
    update (update state first) second = update state (first ++ second) := by
  rw [update_eq_foldl bounded first, update_eq_foldl (foldl_absorb_buffer bounded), update_eq_foldl bounded,
    List.foldl_append]

theorem update_buffer {state : State} (bounded : state.buffer.length ≤ kBlockBytes) (data : List UInt8) :
    (update state data).buffer.length ≤ kBlockBytes := by
  rw [update_eq_foldl bounded]
  exact foldl_absorb_buffer bounded

/-- From any state between calls, the pieces of an input are taken in as the whole input is. -/
theorem foldl_update {state : State} (bounded : state.buffer.length ≤ kBlockBytes) (chunks : List (List UInt8)) :
    chunks.foldl update state = update state chunks.flatten := by
  induction chunks generalizing state with
  | nil => rfl
  | cons chunk rest ih =>
    rw [List.foldl_cons, ih (update_buffer bounded chunk), update_append bounded, List.flatten_cons]

/-- Hashing an input in pieces gives the digest of the whole input. -/
theorem hash_streams (chunks : List (List UInt8)) : final (chunks.foldl update reset) = hash chunks.flatten := by
  have empty : reset.buffer.length ≤ kBlockBytes := by decide
  rw [foldl_update empty, hash]

end Blake2s256

end RackFabric
