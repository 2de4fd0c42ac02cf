import MarkupPad.Element.Closing
import MarkupPad.Vocabulary

/-!
# The opening tag that is still being typed

Of the text before the caret only the region after the last `>` can hold an opening tag
that is not yet closed.  The first `<` of the region that is followed by a name begins
it.

    unfinished? false t = some (name, attributes)      the leftmost `<name attributes` that
                                                       reaches the end of `t` without a `>`
-/

namespace MarkupPad.Element

open Text

/-! ## Algorithm -/

/-- The name at the front of a text and all that follows it.  With `spaced`, only a name
with a blank after it counts. -/
def leadingName? (spaced : Bool) (t : Text) : Option (Text × Text) :=
  let rest := t.dropWhile isNameChar
  if t.takeWhile isNameChar ≠ [] ∧ (spaced → rest.head?.any isBlank) then
    some (t.takeWhile isNameChar, rest)
  else none

/-- The first `<` with a name after it: the name and all that follows it. -/
def firstOpen? (spaced : Bool) : Text → Option (Text × Text)
  | [] => none
  | c :: t =>
    if c = '<' then
      match leadingName? spaced t with
      | none => firstOpen? spaced t
      | some found => some found
    else firstOpen? spaced t

/-- The tag that no `>` has ended yet: its name and all that follows the name. -/
def unfinished? (spaced : Bool) (before : Text) : Option (Text × Text) :=
  firstOpen? spaced (splitTrailing (· != '>') before).2

/-- The name of the tag that a `>` typed now would end. -/
def endedBy? (before : Text) : Option Text := (unfinished? false before).map (·.1)

/-- The name of the element that a `>` typed now should also close.  Void elements have
no closing tag. -/
def autoClosed? (before : Text) : Option Text :=
  (endedBy? before).filter fun name => !Vocabulary.isVoid name

end MarkupPad.Element
