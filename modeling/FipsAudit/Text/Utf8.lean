/-!
# `FipsAudit.Text.Utf8` — UTF-8, strict and lossy

A decoder that reads one byte at a time. Between bytes it is either at a character boundary or inside a
sequence, and then it knows which bytes may come next. Bytes that cannot continue a sequence end it: the
longest well-formed beginning of a character becomes one replacement character, and the byte is read again as
a first byte.

* `Decoder.step` — one byte; the decoder's output is what the byte completed.
* `decodeLossy` — every malformed part read as `U+FFFD`.
* `decode?` — the text of well-formed bytes, `none` otherwise.
-/

namespace FipsAudit.Text.Utf8

/-- The character that stands for a malformed part. -/
def replacement : Char := '\uFFFD'

/-- A sequence that has begun: the bits read, the number of bytes missing, and the bounds of the next byte. -/
structure Partial where
  /-- The bits read so far. -/
  value : Nat
  /-- How many bytes are missing, the next one included. -/
  missing : Nat
  /-- The least byte that may come next. -/
  low : Nat := 0x80
  /-- The greatest byte that may come next. -/
  high : Nat := 0xBF
deriving DecidableEq, Repr

/-- What a first byte means. -/
inductive Lead where
  /-- A character by itself. -/
  | single (c : Char)
  /-- The first byte of a longer sequence. -/
  | opens (p : Partial)
  /-- No sequence begins with this byte. -/
  | malformed
deriving DecidableEq, Repr

/-- The meaning of a first byte. The bounds after `E0`, `ED`, `F0` and `F4` exclude overlong forms, surrogates
    and values above `10FFFF`. -/
def Lead.ofByte (b : UInt8) : Lead :=
  let n := b.toNat
  if n < 0x80 then .single (Char.ofNat n)
  else if n < 0xC2 then .malformed
  else if n < 0xE0 then .opens { value := n - 0xC0, missing := 1 }
  else if n = 0xE0 then .opens { value := 0, missing := 2, low := 0xA0 }
  else if n = 0xED then .opens { value := 13, missing := 2, high := 0x9F }
  else if n < 0xF0 then .opens { value := n - 0xE0, missing := 2 }
  else if n = 0xF0 then .opens { value := 0, missing := 3, low := 0x90 }
  else if n < 0xF4 then .opens { value := n - 0xF0, missing := 3 }
  else if n = 0xF4 then .opens { value := 4, missing := 3, high := 0x8F }
  else .malformed

/-- Where the decoder stands: at a boundary, or inside a sequence. -/
abbrev Decoder := Option Partial

/-- One piece of output: a character, or a malformed part. -/
abbrev Output := Option Char

/-- A byte at a character boundary. -/
def Decoder.start (b : UInt8) : Decoder × List Output :=
  match Lead.ofByte b with
  | .single c => (none, [some c])
  | .opens p => (some p, [])
  | .malformed => (none, [none])

/-- One byte: the next state and what it completed, the later piece first. -/
def Decoder.step (d : Decoder) (b : UInt8) : Decoder × List Output :=
  match d with
  | none => Decoder.start b
  | some p =>
    if p.low ≤ b.toNat ∧ b.toNat ≤ p.high then
      let value := p.value * 64 + (b.toNat - 0x80)
      if p.missing ≤ 1 then (none, [some (Char.ofNat value)])
      else (some { value, missing := p.missing - 1 }, [])
    else
      let (after, out) := Decoder.start b
      (after, out ++ [none])

/-- The outputs of a byte list, in order; a sequence cut short by the end is malformed. -/
def outputs (bytes : List UInt8) : List Output :=
  let (d, out) := bytes.foldl
    (fun (s : Decoder × List Output) b => let (d, new) := s.1.step b; (d, new ++ s.2)) (none, [])
  match d with
  | none => out.reverse
  | some _ => (none :: out).reverse

/-- The characters of `bytes`, each malformed part read as `U+FFFD`. -/
def decodeLossyChars (bytes : List UInt8) : List Char :=
  (outputs bytes).map (·.getD replacement)

/-- The text of `bytes`, each malformed part read as `U+FFFD`. -/
def decodeLossy (bytes : List UInt8) : String := String.ofList (decodeLossyChars bytes)

/-- The characters of well-formed bytes. -/
def decodeChars? (bytes : List UInt8) : Option (List Char) :=
  let out := outputs bytes
  if out.all Option.isSome then some (out.filterMap id) else none

/-- The text of well-formed bytes. -/
def decode? (bytes : List UInt8) : Option String := (decodeChars? bytes).map String.ofList

/-- The bytes of a character list. -/
def encodeChars (s : List Char) : List UInt8 := s.flatMap String.utf8EncodeChar

/-- The bytes of a text. -/
def encode (s : String) : List UInt8 := encodeChars s.toList

/-- How many bytes a character list takes. -/
def size (s : List Char) : Nat := s.foldl (fun n c => n + c.utf8Size) 0

end FipsAudit.Text.Utf8
