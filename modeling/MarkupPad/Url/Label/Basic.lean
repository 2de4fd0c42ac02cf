import MarkupPad.Url.Punycode
import MarkupPad.Url.Label.Character
import MarkupPad.Url.Label.Composition
import MarkupPad.Url.Label.Direction
import MarkupPad.Url.Label.Joining

/-!
# Labels of domain names

A label is a part of a domain name between dots.  One that begins with `xn--` spells a
label with characters beyond ASCII, which must be of the one form that such labels have.
-/

namespace MarkupPad.Url.Label

/-! ## Algorithm -/

/-- Has a text the form of a label with characters beyond ASCII?  It may not begin with a
mark. -/
def isWellFormed (t : Text) : Bool :=
  t.any (0x80 ≤ ·.toNat) && t.all mayHold && !t.head?.any isMark && isComposed t &&
    joinersStand t && t.length ≤ 1000

/-- What a label spells.  One in ASCII stands for itself. -/
def spelled? : Text → Option Text
  | 'x' :: 'n' :: '-' :: '-' :: digits => do
    let t ← if digits.length ≤ 2000 then Punycode.decode? digits else none
    if isWellFormed t then some t else none
  | t => some t

/-- May labels in small letters form a name? -/
def formName (labels : List Text) : Bool :=
  match labels.mapM spelled? with
  | some labels => Direction.agree labels
  | none => false

end MarkupPad.Url.Label
