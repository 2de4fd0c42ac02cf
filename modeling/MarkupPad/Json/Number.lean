import MarkupPad.Decimal.Layout
import MarkupPad.Json.Basic
import MarkupPad.Word

/-!
# Numbers in JSON

A literal without fraction and exponent is a whole number, if it fits 64 bits.  Every other
literal is a float.  Its digits are gathered in a significand of 64 bits, digits that do
not fit are dropped, and the significand is multiplied or divided by powers of ten, so
that the last bit of the float may differ from the nearest one.
-/

namespace MarkupPad.Json

/-- What a literal stands for. -/
inductive Numeral where
  /-- A whole number from 0 to 2^64 − 1. -/
  | natural (n : Nat)
  /-- The negative whole number `-n`, for n from 1 to 2^63. -/
  | negative (n : Nat)
  | real (x : Float)
  /-- A number too great for a float. -/
  | tooGreat

/-- A literal taken apart. -/
structure Literal where
  isNegative : Bool
  whole : Text
  fraction : Text
  /-- The sign and the digits of the exponent. -/
  exponent : Option (Bool × Text)
  deriving Repr, DecidableEq

namespace Literal

/-! ## Algorithm -/

/-- Is the literal a whole number as it is written? -/
def isWhole (l : Literal) : Bool := l.fraction = [] && l.exponent.isNone

/-- The parts of a literal that is written correctly. -/
def ofText (t : Text) : Literal :=
  let isNegative := t.head? = some '-'
  let t := if isNegative then t.drop 1 else t
  let (whole, t) := t.span Char.isDigit
  let (fraction, t) := match t with
    | '.' :: t => t.span Char.isDigit
    | t => ([], t)
  let exponent := match t with
    | _ :: '-' :: digits => some (true, digits)
    | _ :: '+' :: digits => some (false, digits)
    | _ :: digits => some (false, digits)
    | [] => none
  ⟨isNegative, whole, fraction, exponent⟩

/-- The value of a digit. -/
def digit (c : Char) : Nat := c.toNat - '0'.toNat

/-- The number that a run of digits stands for. -/
def number (digits : Text) : Nat := digits.foldl (fun n c => n * 10 + digit c) 0

/-- The significand with as many more digits as 64 bits have room for, and the digits left
over. -/
def gather (significand : Nat) : Text → Nat × Text
  | [] => (significand, [])
  | c :: digits =>
    let more := significand * 10 + digit c
    if Word.limit ≤ more then (significand, c :: digits) else gather more digits

/-- A power of ten up to 10^308. -/
def powerOfTen (n : Nat) : Float := Float.ofScientific 1 false n

/-- A float times a power of ten; `none` when that is infinite. -/
def scale? (x : Float) (exponent : Int) : Option Float :=
  if exponent.natAbs ≤ 308 then
    if 0 ≤ exponent then
      let y := x * powerOfTen exponent.natAbs
      if y.isInf then none else some y
    else some (x / powerOfTen exponent.natAbs)
  else if x == 0 then some x
  else if 0 ≤ exponent then none
  else scale? (x / powerOfTen 308) (exponent + 308)
termination_by exponent.natAbs
decreasing_by omega

/-- The significand of a literal and the exponent that goes with it, without the exponent
that the literal spells. -/
def significand (l : Literal) : Nat × Int :=
  let (s, dropped) := gather 0 l.whole
  let (s, unused) := gather s l.fraction
  (s, (dropped.length : Int) + unused.length - l.fraction.length)

/-- The size of the float that a literal stands for.  An exponent beyond 31 bits makes it
zero or too great. -/
def magnitude? (l : Literal) : Option Float :=
  let (s, exponent) := l.significand
  match l.exponent with
  | none => scale? (Float.ofNat s) exponent
  | some (isNegative, digits) =>
    let spelled := number digits
    if 2147483648 ≤ spelled then if s ≠ 0 ∧ !isNegative then none else some 0
    else scale? (Float.ofNat s) (exponent + if isNegative then -(spelled : Int) else spelled)

/-- The float that a literal stands for. -/
def real (l : Literal) : Numeral :=
  match l.magnitude? with
  | none => .tooGreat
  | some x => .real (if l.isNegative then -x else x)

/-- What a literal stands for.  A negative zero is a float. -/
def numeral (l : Literal) : Numeral :=
  let n := number l.whole
  if l.isWhole then
    if !l.isNegative && n < Word.limit then .natural n
    else if l.isNegative && 0 < n && n ≤ Word.signedLimit then .negative n
    else l.real
  else l.real

end Literal

/-! ## Reading and writing -/

/-- What a number stands for. -/
def numeral? : Json → Option Numeral
  | number literal => some (Literal.ofText literal).numeral
  | _ => none

/-- A whole number from zero on, below a limit. -/
def nat? (limit : Nat) (json : Json) : Option Nat :=
  match json.numeral? with
  | some (.natural n) => if n < limit then some n else none
  | _ => none

/-- A float; whole numbers will do. -/
def float? (json : Json) : Option Float :=
  match json.numeral? with
  | some (.natural n) => some (Float.ofNat n)
  | some (.negative n) => some (-Float.ofNat n)
  | some (.real x) => some x
  | _ => none

/-- Floats are written with a point or an exponent, positionally from 10^-5 to below
10^16, and as null when they are no number. -/
def floatLayout : Layout where
  isPositional := fun exponent => -5 ≤ exponent && exponent < 16
  pointZero := true
  plusSign := true
  tie := .toEven
  nan := "null"
  infinity := "null"
  minusInfinity := "null"

/-- A float, or null when it is no finite number. -/
def float (x : Float) : Json :=
  if x.isFinite then number (floatLayout.float x) else null

end MarkupPad.Json
