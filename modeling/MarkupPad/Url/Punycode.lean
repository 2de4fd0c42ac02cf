import MarkupPad.Text.Basic
import MarkupPad.Word

/-!
# Punycode

An ASCII form of texts with other characters.  The ASCII characters come first, then after
a dash the positions and values of the others as numbers with a variable base.
-/

namespace MarkupPad.Url.Punycode

/-! ## Algorithm -/

/-- The value of a digit in base 36. -/
def digit? (c : Char) : Option Nat :=
  if c.isDigit then some (c.toNat - '0'.toNat + 26)
  else if c.isAlpha then some (c.toLower.toNat - 'a'.toNat)
  else none

/-- The threshold of a digit: below it a digit is the last of its number. -/
def threshold (place bias : Nat) : Nat :=
  if place ≤ bias + 1 then 1 else if bias + 26 ≤ place then 26 else place - bias

/-- The bias from what is left of a number and how often it has been divided. -/
def settle (delta places : Nat) : Nat :=
  if 455 < delta then settle (delta / 35) (places + 36) else places + 36 * delta / (delta + 38)
termination_by delta
decreasing_by exact Nat.div_lt_self (by omega) (by omega)

/-- The bias after a number. -/
def adapt (delta count : Nat) (isFirst : Bool) : Nat :=
  let delta := if isFirst then delta / 700 else delta / 2
  settle (delta + delta / count) 0

/-- The number at the front of the digits, and the digits after it.  No digit but the last
weighs more than a word of 32 bits holds. -/
def number? (bias place weight : Nat) : Text → Option (Nat × Text)
  | [] => none
  | c :: t => do
    let digit ← digit? c
    let threshold := threshold place bias
    if digit < threshold then return (digit * weight, t)
    else if Word.limit32 ≤ weight * (36 - threshold) then none
    else
      let (rest, t) ← number? bias (place + 36) (weight * (36 - threshold)) t
      return (digit * weight + rest, t)

/-- The characters with those that the digits spell put in; `fuel` bounds their number. -/
def insertAll? (fuel code index bias : Nat) (done : Text) (digits : Text) : Option Text :=
  match fuel, digits with
  | _, [] => some done
  | 0, _ => none
  | fuel + 1, digits => do
    let (delta, digits) ← number? bias 36 1 digits
    let count := done.length + 1
    let code := code + (index + delta) / count
    let index := (index + delta) % count
    if code < 0xD800 ∨ (0xE000 ≤ code ∧ code < 0x110000) then
      insertAll? fuel code (index + 1) (adapt delta count (done.all (·.toNat < 0x80)))
        (done.take index ++ Char.ofNat code :: done.drop index) digits
    else none

/-- The text that an ASCII form stands for.  A dash with nothing before it parts
nothing, and is no digit. -/
def decode? (t : Text) : Option Text :=
  let (head, digits) := Text.splitTrailing (· != '-') t
  match head.dropLast with
  | [] => insertAll? t.length 128 0 72 [] t
  | plain => insertAll? t.length 128 0 72 plain digits

end MarkupPad.Url.Punycode
