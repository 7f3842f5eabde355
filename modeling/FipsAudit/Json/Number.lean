import FipsAudit.Json.Token
import FipsAudit.Text.Shortest

/-!
# `FipsAudit.Json.Number` — numbers where something else is wanted

No member of a policy is a number. A number in its place is still read, because a message names it and because a
number can be faulty in itself. Whole numbers within 64 bits are exact; all others become doubles, made of the
leading digits that fit into 64 bits and a power of ten.

* `readNumber` — a number after its sign.
* `Number.text` — its wording: the shortest numeral that reads back.
-/

namespace FipsAudit.Json

open Text

/-- A number of a document. -/
inductive Number where
  /-- A whole number within 64 bits. -/
  | natural (n : Nat)
  /-- A negative whole number within 64 bits, by its absolute value. -/
  | negative (n : Nat)
  /-- Any other number, by its absolute value. -/
  | double (isNegative : Bool) (value : Float)

/-! ## Wording -/

/-- The greatest count of digits before the point that are written out. -/
def maxWhole : Int := 16

/-- The greatest count of zeros behind the point that are written out. -/
def maxZeros : Int := 4

/-- The wording of a numeral: positional where it stays short, else one digit before the point. -/
def numeralText (n : ScaledNumeral) : List Char :=
  let ds := decimal n.digits
  let point : Int := ds.length + n.exponent
  if 0 ≤ n.exponent ∧ point ≤ maxWhole then ds ++ List.replicate n.exponent.toNat '0' ++ ['.', '0']
  else if 0 < point ∧ point ≤ maxWhole then ds.take point.toNat ++ '.' :: ds.drop point.toNat
  else if -maxZeros ≤ point ∧ point ≤ 0 then
    ['0', '.'] ++ List.replicate (-point).toNat '0' ++ ds
  else
    let power := point - 1
    let sign := if power < 0 then ['-'] else []
    let decimals := if ds.length = 1 then [] else '.' :: ds.drop 1
    ds.take 1 ++ decimals ++ 'e' :: sign ++ decimal power.natAbs

/-- The wording of a finite double without its sign. -/
def doubleText (value : Float) : List Char :=
  let f := Fraction.ofBits value.toBits
  if f.significand = 0 then ['0', '.', '0'] else numeralText f.shortest

/-- The wording of a number with its kind. -/
def Number.text : Number → String
  | .natural n => s!"integer `{String.ofList (decimal n)}`"
  | .negative n => s!"integer `-{String.ofList (decimal n)}`"
  | .double isNegative value =>
    let sign := if isNegative then "-" else ""
    s!"floating point `{sign}{String.ofList (doubleText value)}`"

/-! ## Reading -/

/-- Takes digits into `n` while it stays below `limit`; also gives the digits left over. -/
def absorb (limit n : Nat) : List Char → Nat × List Char
  | [] => (n, [])
  | d :: ds =>
    let m := 10 * n + digitValue d
    if m < limit then absorb limit m ds else (n, d :: ds)

/-- The limit of exact numbers. -/
def exactLimit : Nat := 0x10000000000000000

/-- The limit of absolute values of negative exact numbers. -/
def negativeLimit : Nat := 0x8000000000000001

/-- The limit of exponents. -/
def exponentLimit : Nat := 0x80000000

/-- The greatest power of ten that is a double. -/
def maxPower : Nat := 308

/-- `f * 10 ^ exponent`, in steps that are doubles; `none` beyond all doubles. -/
def scale? (f : Float) (exponent : Int) : Option Float :=
  if exponent.natAbs ≤ maxPower then
    let power := Float.ofScientific 1 false exponent.natAbs
    if exponent ≥ 0 then
      let g := f * power
      if g.isInf then none else some g
    else some (f / power)
  else if f == 0 then some f
  else if exponent ≥ 0 then none
  else scale? (f / Float.ofScientific 1 false maxPower) (exponent + maxPower)
termination_by exponent.natAbs
decreasing_by
  simp only [maxPower] at *
  omega

/-- The double of a significand and a power of ten, with `s` after it. -/
def double (isNegative : Bool) (significand : Nat) (exponent : Int) (s : List Char) :
    Except Fault (Number × List Char) :=
  match scale? (UInt64.ofNat significand).toFloat exponent with
  | some value => .ok (.double isNegative value, s)
  | none => .error (.at .numberOutOfRange s)

/-- Reads an exponent after its letter, for a significand scaled by a power of ten. -/
def readExponent (isNegative : Bool) (significand : Nat) (scaled : Int) (s : List Char) :
    Except Fault (Number × List Char) :=
  let below := s.head? == some '-'
  let r := if below || s.head? == some '+' then s.tail else s
  match r with
  | [] => .error (.at .endInValue [])
  | c :: _ =>
    if !c.isDigit then .error (.at .invalidNumber r 1)
    else
      let rest := r.dropWhile Char.isDigit
      match absorb exponentLimit 0 (r.takeWhile Char.isDigit) with
      | (n, []) => double isNegative significand (if below then scaled - n else scaled + n) rest
      | (_, d :: ds) =>
        -- An exponent out of range is a fault where the number grows, and gives zero where it shrinks.
        if significand ≠ 0 ∧ !below then .error (.at .numberOutOfRange (d :: ds ++ rest) 1)
        else .ok (.double isNegative 0, rest)

/-- Reads on after the digits of a number, for a significand scaled by a power of ten. -/
def readScaled (isNegative : Bool) (significand : Nat) (scaled : Int) (s : List Char) :
    Except Fault (Number × List Char) :=
  match s with
  | c :: r => if c = 'e' ∨ c = 'E' then readExponent isNegative significand scaled r
    else double isNegative significand scaled s
  | [] => double isNegative significand scaled s

/-- Reads the decimals after the point. -/
def readDecimals (isNegative : Bool) (significand : Nat) (scaled : Int) (s : List Char) :
    Except Fault (Number × List Char) :=
  let ds := s.takeWhile Char.isDigit
  if ds.isEmpty then .error (if s.isEmpty then .at .endInValue [] else .at .invalidNumber s 1)
  else
    let (n, left) := absorb exactLimit significand ds
    readScaled isNegative n (scaled - (ds.length - left.length : Nat)) (s.dropWhile Char.isDigit)

/-- The whole number `n` with its sign. -/
def whole (isNegative : Bool) (n : Nat) : Number :=
  if !isNegative then .natural n
  else if 0 < n ∧ n < negativeLimit then .negative n
  else .double true (UInt64.ofNat n).toFloat

/-- Reads a number after its sign. -/
def readNumber (isNegative : Bool) (s : List Char) : Except Fault (Number × List Char) :=
  match s with
  | [] => .error (.at .endInValue [])
  | c :: r =>
    if !c.isDigit then .error (.at .invalidNumber s 1)
    else if c = '0' ∧ r.head?.any Char.isDigit then .error (.at .invalidNumber r 1)
    else
      let (n, left) := absorb exactLimit 0 (s.takeWhile Char.isDigit)
      match s.dropWhile Char.isDigit with
      | '.' :: rest => readDecimals isNegative n left.length rest
      | rest =>
        if left.isEmpty ∧ !(rest.head?.any fun c => c == 'e' || c == 'E') then .ok (whole isNegative n, rest)
        else readScaled isNegative n left.length rest

end FipsAudit.Json
