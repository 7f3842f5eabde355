import FipsAudit.Text.Number

/-!
# `FipsAudit.Text.Shortest` — the shortest numeral of a binary fraction

A double stands for every real number nearer to it than to its neighbours. Its shortest numeral is the one with
the fewest digits among those, and the nearest of several. All of it is decided in whole numbers.

* `Fraction` — a double as a whole number times a power of two.
* `shortest` — the digits, and the power of ten that scales them.
-/

namespace FipsAudit.Text

/-- A finite positive double: `significand * 2 ^ exponent`. -/
structure Fraction where
  /-- The whole number. -/
  significand : Nat
  /-- The power of two. -/
  exponent : Int
deriving DecidableEq, Repr

/-- The bit above the stored ones, which every double has but those nearest to zero. -/
def leadingBit : Nat := 0x10000000000000

/-- The fraction of a finite double with its sign removed. -/
def Fraction.ofBits (bits : UInt64) : Fraction :=
  let mantissa := bits.toNat % leadingBit
  let power : Nat := bits.toNat / leadingBit % 2048
  if power = 0 then ⟨mantissa, -1074⟩ else ⟨mantissa + leadingBit, (power : Int) - 1075⟩

/-- A numeral: `digits * 10 ^ exponent`. -/
structure ScaledNumeral where
  /-- The digits as a number. -/
  digits : Nat
  /-- The power of ten. -/
  exponent : Int
deriving DecidableEq, Repr

/-- The reals that round to a fraction, in quarters of its last place. -/
structure Interval where
  /-- The lower end. -/
  low : Nat
  /-- The fraction itself. -/
  middle : Nat
  /-- The upper end. -/
  high : Nat
  /-- Whether the ends belong to the interval. -/
  closed : Bool

/-- The interval of a fraction. Below a power of two the neighbour is only half as far. -/
def Fraction.interval (f : Fraction) : Interval :=
  let m := f.significand
  { low := 4 * m - if m = leadingBit ∧ f.exponent > -1074 then 1 else 2
    middle := 4 * m
    high := 4 * m + 2
    closed := m % 2 == 0 }

/-- Whether `n` lies in the interval when both are multiplied by `scale`. -/
def Interval.holds (i : Interval) (scale n : Nat) : Bool :=
  if i.closed then i.low * scale ≤ n && n ≤ i.high * scale else i.low * scale < n && n < i.high * scale

/-- The multiple of `10 ^ k` that lies in the fraction's interval, the nearer of two; of two equally near ones the
    even one. -/
def Fraction.onGrid? (f : Fraction) (k : Int) : Option Nat :=
  let i := f.interval
  let quarter := f.exponent - 2
  -- In whole numbers: quarters of the last place are counted by `scale`, steps of the grid by `unit`.
  let scale := Nat.pow 10 (-k).toNat <<< quarter.toNat
  let unit := Nat.pow 10 k.toNat <<< (-quarter).toNat
  let below := i.middle * scale / unit
  let isBelow := i.holds scale (below * unit)
  let isAbove := i.holds scale ((below + 1) * unit)
  let twice := 2 * (i.middle * scale - below * unit)
  let nearBelow := twice < unit || (twice == unit && below % 2 == 0)
  if isBelow && (nearBelow || !isAbove) then some below
  else if isAbove then some (below + 1)
  else none

/-- The least power of ten that needs to be tried. -/
def leastPower : Int := -330

/-- The first grid with a hit, among the `n` grids above the least power. -/
def Fraction.search (f : Fraction) : (n : Nat) → ScaledNumeral
  | 0 => ⟨0, 0⟩
  | n + 1 =>
    let k := leastPower + n
    match f.onGrid? k with
    | some d => ⟨d, k⟩
    | none => f.search n

/-- The shortest numeral of a fraction. -/
def Fraction.shortest (f : Fraction) : ScaledNumeral := f.search 640

end FipsAudit.Text
