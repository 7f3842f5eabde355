/-!
# `FipsAudit.BuildInfo.Uvarint` — lengths of variable width

A number is written in groups of seven bits, the lowest group first, one group to a byte; every byte but the last
has its high bit set. Numbers stay below `2 ^ 64`, so there are at most ten bytes and the tenth is zero or one.

* `Uvarint.read` — a number at the front of a byte list, and how many bytes it took.
* `Uvarint.takeString` — a length and as many bytes.
-/

namespace FipsAudit.BuildInfo.Uvarint

/-- The most bytes of a number. -/
def maxBytes : Nat := 10

/-- Reads on after `index` bytes that gave `value`. -/
def readFrom (index value : Nat) : List UInt8 → Option (Nat × Nat)
  | [] => none
  | b :: r =>
    if index ≥ maxBytes then none
    else if index + 1 = maxBytes ∧ b.toNat > 1 then none
    else
      let value := value + (b.toNat % 128) <<< (7 * index)
      if b.toNat < 128 then some (value, index + 1) else readFrom (index + 1) value r

/-- A number at the front of `bytes`, and how many bytes it took. -/
def read (bytes : List UInt8) : Option (Nat × Nat) := readFrom 0 0 bytes

/-- The bytes of a length-prefixed string, and what follows it. -/
def takeString (bytes : List UInt8) : Option (List UInt8 × List UInt8) :=
  match read bytes with
  | none => none
  | some (length, consumed) =>
    let rest := bytes.drop consumed
    if length ≤ rest.length then some (rest.take length, rest.drop length) else none

end FipsAudit.BuildInfo.Uvarint
