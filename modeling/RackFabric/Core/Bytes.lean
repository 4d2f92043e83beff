import RackFabric.Core.Hash

/-!
The canonical encoder. A writer that runs past its limit, or is given text that is not well-formed UTF-8,
latches a failure and never writes again.
-/

namespace RackFabric

def kMaxTextField : Nat := 256

/-- Reads `extra` continuation bytes into the code point. -/
def utf8Continuation : Nat → UInt32 → List UInt8 → Option (UInt32 × List UInt8)
  | 0, cp, rest => some (cp, rest)
  | _ + 1, _, [] => none
  | extra + 1, cp, b :: rest =>
    if b &&& 0xC0 != 0x80 then none
    else utf8Continuation extra ((cp <<< 6) ||| (b &&& 0x3F).toUInt32) rest

/-- The class of a lead byte: continuation count, initial bits and the lowest code point of its length. -/
def utf8Lead (b0 : UInt8) : Option (Nat × UInt32 × UInt32) :=
  if b0 &&& 0xE0 == 0xC0 then some (1, (b0 &&& 0x1F).toUInt32, 0x80)
  else if b0 &&& 0xF0 == 0xE0 then some (2, (b0 &&& 0x0F).toUInt32, 0x800)
  else if b0 &&& 0xF8 == 0xF0 then some (3, (b0 &&& 0x07).toUInt32, 0x10000)
  else none

def isValidUtf8Loop : Nat → List UInt8 → Bool
  | _, [] => true
  | 0, _ :: _ => false
  | fuel + 1, b0 :: rest =>
    if b0 == 0 then false
    else if b0 < 0x80 then isValidUtf8Loop fuel rest
    else
      match utf8Lead b0 with
      | none => false
      | some (extra, cp, lowest) =>
        match utf8Continuation extra cp rest with
        | none => false
        | some (cp, rest) =>
          if cp < lowest then false
          else if cp > 0x10FFFF then false
          else if cp ≥ 0xD800 && cp ≤ 0xDFFF then false
          else isValidUtf8Loop fuel rest

/-- Well-formed UTF-8 without overlong forms, surrogates, code points above U+10FFFF or embedded NUL. -/
def isValidUtf8 (data : List UInt8) : Bool :=
  isValidUtf8Loop data.length data

structure ByteWriter where
  limit : Nat
  buffer : List UInt8 := []
  ok : Bool := true
deriving DecidableEq, Repr

namespace ByteWriter

def size (writer : ByteWriter) : Nat :=
  writer.buffer.length

def raw (writer : ByteWriter) (data : List UInt8) : ByteWriter :=
  if !writer.ok || data.length > writer.limit - writer.buffer.length then { writer with ok := false }
  else { writer with buffer := writer.buffer ++ data }

def u8 (writer : ByteWriter) (v : UInt8) : ByteWriter :=
  writer.raw [v]

def u16 (writer : ByteWriter) (v : UInt16) : ByteWriter :=
  writer.raw [v.toUInt8, (v >>> 8).toUInt8]

def u32 (writer : ByteWriter) (v : UInt32) : ByteWriter :=
  writer.raw ((List.range 4).map fun i => (v >>> UInt32.ofNat (8 * i)).toUInt8)

def u64 (writer : ByteWriter) (v : UInt64) : ByteWriter :=
  writer.raw (Blake2s256.le64 v)

def boolean (writer : ByteWriter) (v : Bool) : ByteWriter :=
  writer.u8 (if v then 1 else 0)

def blob (writer : ByteWriter) (data : List UInt8) (maxLen : Nat) : ByteWriter :=
  if data.length > maxLen || data.length > 0xFFFFFFFF then { writer with ok := false }
  else (writer.u32 (UInt32.ofNat data.length)).raw data

def text (writer : ByteWriter) (value : Text) (maxLen : Nat) : ByteWriter :=
  if !isValidUtf8 value then { writer with ok := false }
  else writer.blob value maxLen

def digest (writer : ByteWriter) (value : Digest) : ByteWriter :=
  writer.raw value.bytes

/-- Writes a count and then every element. -/
def list (writer : ByteWriter) (values : List α) (element : ByteWriter → α → ByteWriter) : ByteWriter :=
  values.foldl element (writer.u32 (UInt32.ofNat values.length))

end ByteWriter

example : isValidUtf8 (text "héllo €") = true ∧ isValidUtf8 [0xC0, 0x80] = false := by decide

end RackFabric
