import FipsAudit.Text.Number

/-!
# `FipsAudit.Digest.Sha256` — the digest SHA-256

The message is padded to whole blocks of 64 bytes; each block changes a state of eight words; the digest is the
final state.

* `padded` — the message with its end mark and length.
* `compress` — one block.
* `digest`, `hexDigest` — the digest as words and as text.
-/

namespace FipsAudit.Digest.Sha256

/-- The state between blocks. -/
structure State where
  /-- Word 0. -/
  a : UInt32
  /-- Word 1. -/
  b : UInt32
  /-- Word 2. -/
  c : UInt32
  /-- Word 3. -/
  d : UInt32
  /-- Word 4. -/
  e : UInt32
  /-- Word 5. -/
  f : UInt32
  /-- Word 6. -/
  g : UInt32
  /-- Word 7. -/
  h : UInt32
deriving DecidableEq, Repr

/-- The state before the first block. -/
def State.initial : State :=
  ⟨0x6a09e667, 0xbb67ae85, 0x3c6ef372, 0xa54ff53a, 0x510e527f, 0x9b05688c, 0x1f83d9ab, 0x5be0cd19⟩

/-- The constants of the rounds. -/
def roundConstants : List UInt32 :=
  [0x428a2f98, 0x71374491, 0xb5c0fbcf, 0xe9b5dba5, 0x3956c25b, 0x59f111f1, 0x923f82a4, 0xab1c5ed5,
    0xd807aa98, 0x12835b01, 0x243185be, 0x550c7dc3, 0x72be5d74, 0x80deb1fe, 0x9bdc06a7, 0xc19bf174,
    0xe49b69c1, 0xefbe4786, 0x0fc19dc6, 0x240ca1cc, 0x2de92c6f, 0x4a7484aa, 0x5cb0a9dc, 0x76f988da,
    0x983e5152, 0xa831c66d, 0xb00327c8, 0xbf597fc7, 0xc6e00bf3, 0xd5a79147, 0x06ca6351, 0x14292967,
    0x27b70a85, 0x2e1b2138, 0x4d2c6dfc, 0x53380d13, 0x650a7354, 0x766a0abb, 0x81c2c92e, 0x92722c85,
    0xa2bfe8a1, 0xa81a664b, 0xc24b8b70, 0xc76c51a3, 0xd192e819, 0xd6990624, 0xf40e3585, 0x106aa070,
    0x19a4c116, 0x1e376c08, 0x2748774c, 0x34b0bcb5, 0x391c0cb3, 0x4ed8aa4a, 0x5b9cca4f, 0x682e6ff3,
    0x748f82ee, 0x78a5636f, 0x84c87814, 0x8cc70208, 0x90befffa, 0xa4506ceb, 0xbef9a3f7, 0xc67178f2]

/-- The word turned right by `n` places, `n` between 1 and 31. -/
def rotate (w n : UInt32) : UInt32 := w >>> n ||| w <<< (32 - n)

/-! ## Padding -/

/-- The number of bytes in a block. -/
def blockSize : Nat := 64

/-- `n` as `width` bytes, the most significant first. -/
def bigEndian (n : Nat) : (width : Nat) → List UInt8
  | 0 => []
  | width + 1 => UInt8.ofNat (n >>> (8 * width)) :: bigEndian n width

/-- The message with one set bit after it, zeros up to the last eight bytes of a block, and its length in bits. -/
def padded (message : ByteArray) : ByteArray :=
  -- Nine bytes, for the set bit and the length, have to find room in the last block.
  let zeros := (2 * blockSize - 9 - message.size % blockSize) % blockSize
  message ++ ⟨(0x80 :: List.replicate zeros 0 ++ bigEndian (8 * message.size) 8).toArray⟩

/-! ## Blocks -/

/-- The word of four bytes from `offset`. -/
def wordAt (bytes : ByteArray) (offset : Nat) : UInt32 :=
  (List.range 4).foldl (fun w i => w <<< 8 ||| ((bytes[offset + i]?).getD 0).toUInt32) 0

/-- Adds the next word of the schedule. -/
def extendSchedule (w : Array UInt32) : Array UInt32 :=
  let word (back : Nat) : UInt32 := (w[w.size - back]?).getD 0
  let s0 := rotate (word 15) 7 ^^^ rotate (word 15) 18 ^^^ word 15 >>> 3
  let s1 := rotate (word 2) 17 ^^^ rotate (word 2) 19 ^^^ word 2 >>> 10
  w.push (word 16 + s0 + word 7 + s1)

/-- The 64 words that a block from `offset` feeds into the rounds. -/
def schedule (bytes : ByteArray) (offset : Nat) : Array UInt32 :=
  let first := ((List.range 16).map fun i => wordAt bytes (offset + 4 * i)).toArray
  (List.range 48).foldl (fun w _ => extendSchedule w) first

/-- One round with its constant and its word. -/
def round (s : State) (k w : UInt32) : State :=
  let s1 := rotate s.e 6 ^^^ rotate s.e 11 ^^^ rotate s.e 25
  let choice := (s.e &&& s.f) ^^^ (~~~s.e &&& s.g)
  let t1 := s.h + s1 + choice + k + w
  let s0 := rotate s.a 2 ^^^ rotate s.a 13 ^^^ rotate s.a 22
  let majority := (s.a &&& s.b) ^^^ (s.a &&& s.c) ^^^ (s.b &&& s.c)
  ⟨t1 + (s0 + majority), s.a, s.b, s.c, s.d + t1, s.e, s.f, s.g⟩

/-- The sum of two states, word by word. -/
def State.add (s t : State) : State :=
  ⟨s.a + t.a, s.b + t.b, s.c + t.c, s.d + t.d, s.e + t.e, s.f + t.f, s.g + t.g, s.h + t.h⟩

/-- The state after the block from `offset`. -/
def compress (bytes : ByteArray) (s : State) (offset : Nat) : State :=
  s.add ((roundConstants.zip (schedule bytes offset).toList).foldl (fun s kw => round s kw.1 kw.2) s)

/-- The digest of a message. -/
def digest (message : ByteArray) : State :=
  let bytes := padded message
  (List.range (bytes.size / blockSize)).foldl (fun s i => compress bytes s (blockSize * i)) .initial

/-! ## Text -/

/-- A word as eight hexadecimal digits. -/
def hexWord (w : UInt32) : List Char :=
  let ds := Text.hex w.toNat
  List.replicate (8 - ds.length) '0' ++ ds

/-- The digest of a message as text. -/
def hexDigest (message : ByteArray) : String :=
  let s := digest message
  String.ofList ([s.a, s.b, s.c, s.d, s.e, s.f, s.g, s.h].flatMap hexWord)

end FipsAudit.Digest.Sha256
