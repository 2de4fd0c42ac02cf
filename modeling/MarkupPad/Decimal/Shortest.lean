/-!
# The fewest decimal digits that stand for a binary fraction

A finite float is `m · 2^q`.  The reals that round to it form an interval around it, its
ends included when `m` is even.  The shortest decimal is the nearest point of the coarsest
decimal grid that has a point in the interval; if a grid has one, one of the two
neighbours of the value on that grid is one.
-/

namespace MarkupPad

/-- The decimal `coefficient · 10^exponent`. -/
structure Decimal where
  coefficient : Nat
  exponent : Int
  deriving Repr, DecidableEq

/-- Which of two equally near decimals is taken. -/
inductive Tie where
  /-- The one with the even last digit. -/
  | toEven
  /-- The greater one. -/
  | up
  deriving Repr, DecidableEq

namespace Decimal

/-! ## Algorithm -/

/-- The number of fractions of a float, of 52 bits each. -/
def fractionCount : Nat := 4503599627370496

/-- A positive value with the interval of the reals that round to it, over one common
denominator. -/
structure Interval where
  low : Nat
  value : Nat
  high : Nat
  denominator : Nat
  /-- Do the ends belong to the interval? -/
  closed : Bool
  deriving Repr

namespace Interval

/-- The interval of the float `m · 2^q`.  Below a power of two the neighbouring floats are
twice as near, unless the exponent is the least one. -/
def ofBinary (m : Nat) (q leastExponent : Int) : Interval :=
  let scale := Nat.pow 2 (q - 2).toNat
  let isPower := m = fractionCount && leastExponent < q
  { low := (4 * m - if isPower then 1 else 2) * scale
    value := 4 * m * scale
    high := (4 * m + 2) * scale
    denominator := Nat.pow 2 (2 - q).toNat
    closed := m % 2 = 0 }

/-- The interval in units of `10^k`. -/
def inUnits (i : Interval) (k : Int) : Interval :=
  let up := Nat.pow 10 (-k).toNat
  { i with
    low := i.low * up
    value := i.value * up
    high := i.high * up
    denominator := i.denominator * Nat.pow 10 k.toNat }

/-- Does the interval contain the whole number `n`? -/
def contains (i : Interval) (n : Nat) : Bool :=
  if i.closed then i.low ≤ n * i.denominator && n * i.denominator ≤ i.high
  else i.low < n * i.denominator && n * i.denominator < i.high

/-- The nearest whole number in the interval, if there is one. -/
def nearest? (i : Interval) (tie : Tie) : Option Nat :=
  let below := i.value / i.denominator
  let rest := i.value % i.denominator
  let above := below + 1
  if i.contains below && i.contains above then
    if 2 * rest < i.denominator then some below
    else if i.denominator < 2 * rest then some above
    else match tie with
      | .up => some above
      | .toEven => some (if below % 2 = 0 then below else above)
  else if i.contains below then some below
  else if i.contains above then some above
  else none

/-- The exponent of the first decimal digit of the value. -/
def leading (i : Interval) : Int :=
  if i.denominator ≤ i.value then
    ((Nat.toDigits 10 (i.value / i.denominator)).length : Int) - 1
  else
    let zeros := (Nat.toDigits 10 (i.denominator / i.value)).length - 1
    if i.denominator ≤ i.value * Nat.pow 10 zeros then -(zeros : Int) else -(zeros : Int) - 1

end Interval

/-- The decimal without zeros at the end of its coefficient. -/
def trimZeros (fuel : Nat) (d : Decimal) : Decimal :=
  match fuel with
  | 0 => d
  | fuel + 1 =>
    if d.coefficient ≠ 0 ∧ d.coefficient % 10 = 0 then
      trimZeros fuel ⟨d.coefficient / 10, d.exponent + 1⟩
    else d

/-- The nearest point of the first grid, from `10^k` to finer ones, that has a point in the
interval. -/
def onGrids (i : Interval) (tie : Tie) (k : Int) : Nat → Decimal
  | 0 => ⟨i.value / i.denominator, 0⟩
  | finer + 1 =>
    match (i.inUnits k).nearest? tie with
    | some n => ⟨n, k⟩
    | none => onGrids i tie (k - 1) finer

/-- The shortest decimal in an interval.  Seventeen digits always suffice. -/
def shortest (i : Interval) (tie : Tie) : Decimal :=
  trimZeros 20 (onGrids i tie i.leading 18)

end Decimal

end MarkupPad
