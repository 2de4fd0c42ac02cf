import MarkupPad.Text.Affix
import MarkupPad.Token

/-!
# Renaming both tags of an element

When an edit changes the name in an opening tag and nothing else, the balancing closing
tag gets the new name too.  The edit must change the length of the name, and the tag must
have been ended by a `>` before any other tag begins.

    old = P ++ "<" ++ a ++ S,   new = P ++ "<" ++ b ++ S      with a, b the whole names
-/

namespace MarkupPad.Element

open Text

/-! ## Algorithm -/

/-- Does a `>` come before any `<`? -/
def isEnded (t : Text) : Bool :=
  (t.find? fun c => c = '<' || c = '>') = some '>'

/-- The change of name that an edit makes to the opening tag at the caret: the text up to
and including its `<`, the old name, the new one, and the rest of the text. -/
def nameChange? (old new : Text) (caret : Nat) : Option (Text × Text × Text × Text) := do
  let before ← new.before? caret
  let head := (splitTrailing isNameChar before).1
  let oldRest ← dropFront? head old
  let newRest ← dropFront? head new
  let oldName := oldRest.takeWhile isNameChar
  let newName := newRest.takeWhile isNameChar
  let rest := newRest.dropWhile isNameChar
  if head.getLast? = some '<' ∧ oldRest.dropWhile isNameChar = rest ∧
      oldName.length ≠ newName.length ∧ isEnded rest then
    some (head, oldName, newName, rest)
  else none

/-- The new text with the closing tag renamed too; `none` when the edit did not rename the
opening tag at the caret, or when the tag is not closed. -/
def rename? (old new : Text) (caret : Nat) : Option Text := do
  let (head, oldName, newName, _) ← nameChange? old new caret
  let close ← closing? new (size head - 1) oldName
  let kept ← new.before? (close + 2)
  let rest ← new.after? (close + 2 + size oldName)
  return kept ++ newName ++ rest

end MarkupPad.Element
