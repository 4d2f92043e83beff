import RackFabric.Core.Status

/-!
BLAKE2s-256 as the runtime computes it: a buffer that is compressed only once more input follows, and a
final block compressed with the finalisation flag.
-/

namespace RackFabric

/-- A 256 bit content address. -/
structure Digest where
  bytes : List UInt8
  sized : bytes.length = 32
deriving DecidableEq, Repr

def Digest.zero : Digest :=
  ⟨List.replicate 32 0, by simp⟩

instance : Inhabited Digest := ⟨Digest.zero⟩

def Digest.isZero (digest : Digest) : Bool :=
  digest.bytes.all (· == 0)

/-- Lexicographic order of byte strings, the order in which digests and texts compare. -/
def lexLess : List UInt8 → List UInt8 → Bool
  | [], [] => false
  | [], _ :: _ => true
  | _ :: _, [] => false
  | x :: xs, y :: ys => x < y || (x == y && lexLess xs ys)

def Digest.less (a b : Digest) : Bool :=
  lexLess a.bytes b.bytes

namespace Blake2s256

def kBlockBytes : Nat := 64

def kIV : List UInt32 :=
  [0x6A09E667, 0xBB67AE85, 0x3C6EF372, 0xA54FF53A, 0x510E527F, 0x9B05688C, 0x1F83D9AB, 0x5BE0CD19]

def kSigma : List (List Nat) :=
  [[0, 1, 2, 3, 4, 5, 6, 7, 8, 9, 10, 11, 12, 13, 14, 15],
   [14, 10, 4, 8, 9, 15, 13, 6, 1, 12, 0, 2, 11, 7, 5, 3],
   [11, 8, 12, 0, 5, 2, 15, 13, 10, 14, 3, 6, 7, 1, 9, 4],
   [7, 9, 3, 1, 13, 12, 11, 14, 2, 6, 5, 10, 4, 0, 15, 8],
   [9, 0, 5, 7, 2, 4, 10, 15, 14, 1, 11, 12, 6, 8, 3, 13],
   [2, 12, 6, 10, 0, 11, 8, 3, 4, 13, 7, 5, 15, 14, 1, 9],
   [12, 5, 1, 15, 14, 13, 4, 10, 0, 7, 6, 3, 9, 2, 8, 11],
   [13, 11, 7, 14, 12, 1, 3, 9, 5, 0, 15, 4, 8, 6, 2, 10],
   [6, 15, 14, 9, 11, 3, 0, 8, 12, 2, 13, 7, 1, 4, 10, 5],
   [10, 2, 8, 4, 7, 6, 1, 5, 15, 11, 9, 14, 3, 12, 13, 0]]

def rotr32 (x : UInt32) (n : UInt32) : UInt32 :=
  (x >>> n) ||| (x <<< (32 - n))

def load32Le (b0 b1 b2 b3 : UInt8) : UInt32 :=
  b0.toUInt32 ||| (b1.toUInt32 <<< 8) ||| (b2.toUInt32 <<< 16) ||| (b3.toUInt32 <<< 24)

def loadWords : List UInt8 → List UInt32
  | b0 :: b1 :: b2 :: b3 :: rest => load32Le b0 b1 b2 b3 :: loadWords rest
  | _ => []

/-- One quarter round on the words at `a`, `b`, `c` and `d` of the work vector. -/
def mix (v : List UInt32) (a b c d : Nat) (x y : UInt32) : List UInt32 :=
  let va := v.getD a 0 + v.getD b 0 + x
  let vd := rotr32 (v.getD d 0 ^^^ va) 16
  let vc := v.getD c 0 + vd
  let vb := rotr32 (v.getD b 0 ^^^ vc) 12
  let va := va + vb + y
  let vd := rotr32 (vd ^^^ va) 8
  let vc := vc + vd
  let vb := rotr32 (vb ^^^ vc) 7
  (((v.set a va).set b vb).set c vc).set d vd

def round (m : List UInt32) (v : List UInt32) (s : List Nat) : List UInt32 :=
  let word := fun i => m.getD (s.getD i 0) 0
  let v := mix v 0 4 8 12 (word 0) (word 1)
  let v := mix v 1 5 9 13 (word 2) (word 3)
  let v := mix v 2 6 10 14 (word 4) (word 5)
  let v := mix v 3 7 11 15 (word 6) (word 7)
  let v := mix v 0 5 10 15 (word 8) (word 9)
  let v := mix v 1 6 11 12 (word 10) (word 11)
  let v := mix v 2 7 8 13 (word 12) (word 13)
  mix v 3 4 9 14 (word 14) (word 15)

structure State where
  h : List UInt32
  buffer : List UInt8 := []
  counter : UInt64 := 0
deriving DecidableEq, Repr

/-- The unkeyed initial state: digest length 32, fanout 1, depth 1. -/
def reset : State :=
  { h := kIV.modify 0 (· ^^^ 0x01010020) }

def compress (state : State) (block : List UInt8) (last : Bool) : List UInt32 :=
  let m := loadWords block
  let v := state.h ++ kIV
  let v := v.modify 12 (· ^^^ state.counter.toUInt32)
  let v := v.modify 13 (· ^^^ (state.counter >>> 32).toUInt32)
  let v := if last then v.modify 14 (~~~ ·) else v
  let v := kSigma.foldl (round m) v
  (List.range 8).map fun i => state.h.getD i 0 ^^^ v.getD i 0 ^^^ v.getD (i + 8) 0

/-- A full buffer is compressed only when more input is known to follow. -/
def flush (state : State) : State :=
  if state.buffer.length = kBlockBytes then
    let state := { state with counter := state.counter + 64 }
    { state with h := compress state state.buffer false, buffer := [] }
  else state

def updateLoop : Nat → State → List UInt8 → State
  | 0, state, _ => state
  | fuel + 1, state, data =>
    if data.isEmpty then state
    else
      let state := flush state
      let take := min data.length (kBlockBytes - state.buffer.length)
      updateLoop fuel { state with buffer := state.buffer ++ data.take take } (data.drop take)

/-- Each turn of the copy loop consumes at least one byte, so the input length bounds the turns. -/
def update (state : State) (data : List UInt8) : State :=
  updateLoop data.length state data

def le64 (value : UInt64) : List UInt8 :=
  (List.range 8).map fun i => (value >>> UInt64.ofNat (8 * i)).toUInt8

def updateLe64 (state : State) (value : UInt64) : State :=
  update state (le64 value)

def final (state : State) : Digest :=
  let counted := { state with counter := state.counter + UInt64.ofNat state.buffer.length }
  let block := state.buffer ++ List.replicate (kBlockBytes - state.buffer.length) 0
  let h := compress counted block true
  ⟨(List.range 32).map fun i => (h.getD (i / 4) 0 >>> UInt32.ofNat (8 * (i % 4))).toUInt8, by simp⟩

def hash (data : List UInt8) : Digest :=
  final (update reset data)

example : (hash (text "abc")).bytes.take 8 = [0x50, 0x8C, 0x5E, 0x8C, 0x32, 0x7C, 0x14, 0xE2] := by
  decide +kernel

end Blake2s256

end RackFabric
