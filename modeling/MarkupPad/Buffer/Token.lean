import MarkupPad.Buffer.Offset
import MarkupPad.Token

/-!
# Finding tokens in a buffer

The tokens of the text before the caret, found by offsets.  Each scanner finds what its
namesake on characters finds, and none of them cuts the text at a wrong place.

    context? before = some (Context.ofText? before)
    autoClosed? before = some (Element.autoClosed? before)
-/

namespace MarkupPad.Buffer

open Text

/-! ## Tokens before the caret -/

/-- The longest run of the class that ends at the caret. -/
def trailing? (p : Char → Bool) (before : Text) : Option Token := do
  let start ← runStart? before.utf8 p (size before)
  return ⟨start, ← before.after? start⟩

/-- The run of the class at the caret, if a `<` stands right before it. -/
def afterAngle? (p : Char → Bool) (before : Text) : Option (Option Token) := do
  let token ← trailing? p before
  if token.start = 0 then return none
  let b ← before.utf8[← minus? token.start 1]?
  return if byteIn (· = '<') b then some token else none

/-- The name of an opening tag up to the caret; it may be empty. -/
def tagName? (before : Text) : Option (Option Token) := afterAngle? Element.isNameChar before

/-! ## The unfinished tag -/

/-- The name after the `<` at an offset: where it starts and how long it is.  With
`spaced`, only a name with a blank after it counts. -/
def nameAfter? (spaced : Bool) (before : Text) (angle : Nat) : Option (Option (Nat × Nat)) := do
  let start := angle + 1
  let length ← runLength? before.utf8 Element.isNameChar start
  if length = 0 then return none
  if spaced then
    let rest ← before.after? (start + length)
    if !rest.head?.any isBlank then return none
  return some (start, length)

/-- The name after the first of the offsets that has one. -/
def firstName? (spaced : Bool) (before : Text) : List Nat → Option (Option (Nat × Nat))
  | [] => some none
  | angle :: angles => do
    match ← nameAfter? spaced before angle with
    | some name => return some name
    | none => firstName? spaced before angles

/-- The name of the tag that no `>` has ended yet: the first in the region after the last
`>`. -/
def unfinished? (spaced : Bool) (before : Text) : Option (Option (Nat × Nat)) := do
  let region := afterLast '>' before
  let rest ← before.after? region
  firstName? spaced before ((offsetsFrom '<' 0 rest).map (region + ·))

/-- The name of the element that a `>` typed now should also close. -/
def autoClosed? (before : Text) : Option (Option Text) := do
  match ← unfinished? false before with
  | none => return none
  | some (start, length) =>
    let name ← before.slice? start (start + length)
    return if Vocabulary.isVoid name then none else some name

/-! ## What is being typed -/

/-- The caret is inside an opening tag, past its name and a blank. -/
def attribute? (before : Text) : Option (Option Context) := do
  match ← unfinished? true before with
  | none => return none
  | some _ => return some ⟨.attribute, ← trailing? Token.isAttributeChar before⟩

/-- The caret directly follows `<` and a part of a name. -/
def tag? (before : Text) : Option (Option Context) := do
  match ← afterAngle? Char.isAlphanum before with
  | none => return none
  | some token => return some ⟨.tag, token⟩

/-- The caret follows a bare word. -/
def element? (before : Text) : Option (Option Context) := do
  let token ← trailing? Char.isAlphanum before
  if token.text = [] then return none
  let head ← before.before? token.start
  return if Token.wordMayFollow head then some ⟨.element, token⟩ else none

/-- What is being typed: an attribute before a tag name before a bare word. -/
def context? (before : Text) : Option (Option Context) := do
  match ← attribute? before with
  | some context => return some context
  | none =>
    match ← tag? before with
    | some context => return some context
    | none => element? before

end MarkupPad.Buffer
