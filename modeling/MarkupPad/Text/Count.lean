import MarkupPad.Text.Basic
import MarkupPad.Word

/-!
# Counts

Offsets, indices, delays and limits are written in decimal digits, with or without a plus
sign, and fit in 64 bits.
-/

namespace MarkupPad.Text

/-! ## Algorithm -/

/-- The number that decimal digits stand for. -/
def digitsValue (t : Text) : Nat := t.foldl (fun n c => n * 10 + (c.toNat - '0'.toNat)) 0

/-- A text without a plus sign at its front. -/
def dropPlus : Text → Text
  | '+' :: t => t
  | t => t

/-- The count that a text stands for. -/
def count? (t : Text) : Option Nat :=
  let digits := dropPlus t
  if digits ≠ [] ∧ digits.all Char.isDigit ∧ digitsValue digits < Word.limit then
    some (digitsValue digits)
  else none

end MarkupPad.Text
