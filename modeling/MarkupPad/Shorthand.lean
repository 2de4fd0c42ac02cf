import MarkupPad.Token

/-!
# Element shorthand

`ul.menu#main` abbreviates an element: a tag name, which may be missing, and one or more
selectors, `.class` or `#id`.  The shorthand before the caret is the longest suffix of
that form.

    token? t = some ⟨size a, b⟩      where t = a ++ b and b is the longest suffix of the
                                     form tag (marker name)⁺
-/

namespace MarkupPad

open Text

/-- An element in short: its tag, its classes in order and its id. -/
structure Shorthand where
  tag : Text
  classes : List Text
  id : Option Text
  deriving Repr, DecidableEq

namespace Shorthand

/-! ## Algorithm -/

/-- Characters of class and id names. -/
def isSelectorChar (c : Char) : Bool := c.isAlphanum || c = '_' || c = '-'

/-- The marks that begin a selector. -/
def isMark (c : Char) : Bool := c = '.' || c = '#'

/-- A reversed text without the selectors at its front, that is, at the end of the
text. -/
def dropSelectors (reversed : Text) : Text :=
  match _h : reversed.dropWhile isSelectorChar with
  | [] => reversed
  | mark :: rest =>
    if isMark mark ∧ reversed.head?.any isSelectorChar then dropSelectors rest else reversed
termination_by reversed.length
decreasing_by
  have := (List.dropWhile_sublist isSelectorChar (l := reversed)).length_le
  simp only [_h, List.length_cons] at this
  omega

/-- The shorthand at the end of a text. -/
def token? (before : Text) : Option Token :=
  let reversed := before.reverse
  let rest := dropSelectors reversed
  if rest.length < reversed.length then
    let head := rest.dropWhile Char.isAlphanum
    some ⟨size head, before.drop head.length⟩
  else none

/-- The element with one more selector.  A selector without a name adds nothing, and a
later id replaces an earlier one. -/
def add (s : Shorthand) (mark : Char) (name : Text) : Shorthand :=
  if name = [] then s
  else if mark = '.' then { s with classes := s.classes ++ [name] }
  else { s with id := some name }

/-- The element with the selectors that a text spells. -/
def addAll (s : Shorthand) : Text → Shorthand
  | [] => s
  | mark :: t =>
    have := (List.dropWhile_sublist (fun c => !isMark c) (l := t)).length_le
    addAll (s.add mark (t.takeWhile fun c => !isMark c)) (t.dropWhile fun c => !isMark c)
termination_by t => t.length
decreasing_by simp; omega

/-- The element that a token stands for; without a tag it is a `div`. -/
def ofToken (token : Text) : Shorthand :=
  let typed := token.takeWhile fun c => !isMark c
  addAll ⟨if typed = [] then "div".toList else typed, [], none⟩
    (token.dropWhile fun c => !isMark c)

/-- The opening tag of the element, without the `>` that ends it. -/
def openTagHead (s : Shorthand) : Text :=
  let id := match s.id with
    | none => []
    | some id => " id=\"".toList ++ id ++ ['"']
  let classes := if s.classes = [] then [] else
    " class=\"".toList ++ join [' '] s.classes ++ ['"']
  '<' :: s.tag ++ id ++ classes

/-- The closing tag of an element. -/
def closingTag (name : Text) : Text := "</".toList ++ name ++ ['>']

/-- The whole element, empty. -/
def element (s : Shorthand) : Text := s.openTagHead ++ ['>'] ++ closingTag s.tag

end Shorthand

end MarkupPad
