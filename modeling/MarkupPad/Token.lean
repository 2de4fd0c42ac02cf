import MarkupPad.Element.Opening

/-!
# Tokens before the caret

A token is the longest run of characters of one class that ends at the caret.  Where the
run stands decides what is being typed: an attribute of the unfinished tag, a tag name
after `<`, or a bare word.

    trailing p t = ⟨size a, b⟩      where t = a ++ b and b is the longest run of p
-/

namespace MarkupPad

open Text

/-- A piece of text that ends at the caret, with the offset at which it starts. -/
structure Token where
  start : Nat
  text : Text
  deriving Repr, DecidableEq

/-- What a suggestion stands for. -/
inductive SuggestionKind where
  /-- The name of a tag, after `<`. -/
  | tag
  /-- The name of an attribute inside an opening tag. -/
  | attribute
  /-- A bare word that becomes a whole element. -/
  | element
  deriving Repr, DecidableEq

/-- What is being typed before the caret, as far as suggestions go. -/
structure Context where
  kind : SuggestionKind
  token : Token
  deriving Repr, DecidableEq

namespace Token

/-! ## Algorithm -/

/-- The offset just past a token. -/
def stop (token : Token) : Nat := token.start + token.text.size

/-- The longest run of the class at the end of a text. -/
def trailing (p : Char → Bool) (before : Text) : Token :=
  let (head, run) := splitTrailing p before
  ⟨size head, run⟩

/-- Characters of attribute names. -/
def isAttributeChar (c : Char) : Bool := c.isAlphanum || c = '-'

/-- The run of the class at the end of a text, if a `<` stands right before it. -/
def afterAngle? (p : Char → Bool) (before : Text) : Option Token :=
  if (splitTrailing p before).1.getLast? = some '<' then some (trailing p before) else none

/-- The name of an opening tag up to the caret; it may be empty. -/
def tagName? (before : Text) : Option Token := afterAngle? Element.isNameChar before

/-- May a bare word start after this text?  It may at the beginning, after a blank and
after `>`. -/
def wordMayFollow (head : Text) : Bool :=
  match head.getLast? with
  | none => true
  | some c => c = '>' || isBlank c

end Token

namespace Context

/-! ## Algorithm -/

/-- The caret is inside an opening tag, past its name and a blank. -/
def attribute? (before : Text) : Option Context :=
  (Element.unfinished? true before).map fun _ =>
    ⟨.attribute, Token.trailing Token.isAttributeChar before⟩

/-- The caret directly follows `<` and a part of a name. -/
def tag? (before : Text) : Option Context :=
  (Token.afterAngle? Char.isAlphanum before).map fun token => ⟨.tag, token⟩

/-- The caret follows a bare word. -/
def element? (before : Text) : Option Context :=
  let (head, word) := splitTrailing Char.isAlphanum before
  if word ≠ [] ∧ Token.wordMayFollow head then some ⟨.element, Token.trailing Char.isAlphanum before⟩
  else none

/-- What is being typed: an attribute before a tag name before a bare word. -/
def ofText? (before : Text) : Option Context :=
  attribute? before <|> tag? before <|> element? before

/-- The token in small letters, as it is looked up in a vocabulary. -/
def query (context : Context) : Text := asciiLower context.token.text

end Context

end MarkupPad
