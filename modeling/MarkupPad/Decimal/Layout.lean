import MarkupPad.Decimal.Shortest
import MarkupPad.Text.Basic

/-!
# Writing floats

The digits of a float are the fewest that stand for it.  How they are laid out is a matter
of the place they are written to, and `Layout` gathers those decisions.
-/

namespace MarkupPad

/-- A float taken apart: a finite one is `mantissa · 2^exponent`. -/
inductive FloatParts where
  | nan
  | infinite (negative : Bool)
  | finite (negative : Bool) (mantissa : Nat) (exponent : Int)
  deriving Repr, DecidableEq

namespace FloatParts

/-- The exponent of the smallest floats. -/
def leastExponent : Int := -1074

/-- The parts of a float, from its bits: a sign, eleven bits of exponent and 52 bits of
fraction. -/
def ofBits (bits : Nat) : FloatParts :=
  let negative := bits / (2048 * Decimal.fractionCount) = 1
  let exponent : Nat := bits / Decimal.fractionCount % 2048
  let fraction := bits % Decimal.fractionCount
  if exponent = 2047 then if fraction = 0 then infinite negative else nan
  else if exponent = 0 then finite negative fraction leastExponent
  else finite negative (Decimal.fractionCount + fraction) ((exponent : Int) - 1075)

end FloatParts

/-- How floats are written. -/
structure Layout where
  /-- For which exponents of the first digit all digits are written out. -/
  isPositional : Int → Bool
  /-- Is a whole number followed by `.0`? -/
  pointZero : Bool
  /-- Has a positive exponent a plus sign? -/
  plusSign : Bool
  tie : Tie
  nan : String
  infinity : String
  minusInfinity : String

namespace Layout

/-! ## Algorithm -/

/-- All digits, with a point before, inside or after the digits of the coefficient. -/
def positional (l : Layout) (digits : Text) (exponent : Int) : Text :=
  let whole := (digits.length : Int) + exponent
  if 0 ≤ exponent then
    digits ++ List.replicate exponent.toNat '0' ++ if l.pointZero then ['.', '0'] else []
  else if 0 < whole then digits.take whole.toNat ++ '.' :: digits.drop whole.toNat
  else ['0', '.'] ++ List.replicate (-whole).toNat '0' ++ digits

/-- One digit before the point, and the exponent of that digit. -/
def scientific (l : Layout) (digits : Text) (first : Int) : Text :=
  let fraction := match digits.drop 1 with
    | [] => []
    | rest => '.' :: rest
  let sign := if first < 0 then ['-'] else if l.plusSign then ['+'] else []
  digits.take 1 ++ fraction ++ 'e' :: sign ++ Nat.toDigits 10 first.natAbs

/-- A decimal written out. -/
def decimal (l : Layout) (d : Decimal) : Text :=
  let digits := Nat.toDigits 10 d.coefficient
  let first := d.exponent + digits.length - 1
  if l.isPositional first then l.positional digits d.exponent else l.scientific digits first

/-- A float written out. -/
def parts (l : Layout) : FloatParts → Text
  | .nan => l.nan.toList
  | .infinite false => l.infinity.toList
  | .infinite true => l.minusInfinity.toList
  | .finite negative mantissa exponent =>
    let d := if mantissa = 0 then ⟨0, 0⟩
      else Decimal.shortest (.ofBinary mantissa exponent FloatParts.leastExponent) l.tie
    (if negative then ['-'] else []) ++ l.decimal d

/-- A float written out. -/
def float (l : Layout) (x : Float) : Text := l.parts (.ofBits x.toBits.toNat)

/-- Floats in messages: all digits, and no point in whole numbers. -/
def plain : Layout where
  isPositional := fun _ => true
  pointZero := false
  plusSign := false
  tie := .up
  nan := "NaN"
  infinity := "inf"
  minusInfinity := "-inf"

end Layout

end MarkupPad
