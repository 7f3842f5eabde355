/-!
# `FipsAudit.Text.Number` — digits

Decimal and hexadecimal numerals as character lists.

* `natOfDigits` — the value of a run of decimal digits.
* `decimal`, `hex` — the shortest numeral of a number.
* `hexValue?` — the value of one hexadecimal digit of either case.
-/

namespace FipsAudit.Text

/-- The value of a decimal digit; meaningful on `'0'` to `'9'`. -/
def digitValue (c : Char) : Nat := c.toNat - '0'.toNat

/-- The value of a run of decimal digits, most significant first. -/
def natOfDigits (ds : List Char) : Nat := ds.foldl (fun n d => 10 * n + digitValue d) 0

/-- The decimal numeral of `n` without leading zeros. -/
def decimal (n : Nat) : List Char := Nat.toDigits 10 n

/-- The hexadecimal numeral of `n` in small letters, without leading zeros. -/
def hex (n : Nat) : List Char := Nat.toDigits 16 n

/-- The value of a hexadecimal digit of either case. -/
def hexValue? (c : Char) : Option Nat :=
  if '0' ≤ c ∧ c ≤ '9' then some (c.toNat - '0'.toNat)
  else if 'a' ≤ c ∧ c ≤ 'f' then some (c.toNat - 'a'.toNat + 10)
  else if 'A' ≤ c ∧ c ≤ 'F' then some (c.toNat - 'A'.toNat + 10)
  else none

/-- The character with scalar value `n`; surrogates and values above `10FFFF` (hexadecimal) name none. -/
def charOfNat? (n : Nat) : Option Char :=
  if h : n.isValidChar then some (Char.ofNatAux n h) else none

end FipsAudit.Text
