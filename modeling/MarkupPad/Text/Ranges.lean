import MarkupPad.Text.Basic

/-!
# Characters in ranges

Properties of characters are given as lists of ranges, each with the numbers of its first
and its last character.
-/

namespace MarkupPad.Text

/-! ## Algorithm -/

/-- Does a character lie in one of the ranges? -/
def inRanges (ranges : List (Nat × Nat)) (c : Char) : Bool :=
  ranges.any fun (first, last) => first ≤ c.toNat && c.toNat ≤ last

/-- The value of the first range that a character lies in. -/
def valueIn? {α : Type} (ranges : List (Nat × Nat × α)) (c : Char) : Option α :=
  (ranges.find? fun (first, last, _) => first ≤ c.toNat && c.toNat ≤ last).map (·.2.2)

end MarkupPad.Text
