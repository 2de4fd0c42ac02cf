import MarkupPad.Completion

/-!
# Suggestions

While a tag, an attribute or a bare word is being typed, the words of the vocabulary that
begin with it are offered, in vocabulary order.  Accepting a suggestion replaces the token
before the caret.

    suggestion ∈ offer before limit → the token of `Context.ofText? before` is, but for
                                      ASCII case, the beginning of its value
-/

namespace MarkupPad

open Text

/-- A word that is offered. -/
structure Suggestion where
  value : Text
  kind : SuggestionKind
  deriving Repr, DecidableEq

namespace Suggestion

/-! ## Algorithm -/

/-- The words that begin with the query, whatever its ASCII case; at most `limit` of them. -/
def matching (vocabulary : List Text) (query : Text) (limit : Nat) : List Text :=
  (vocabulary.filter fun word => (dropName? query word).isSome).take limit

/-- The vocabulary that a kind of suggestion draws on. -/
def vocabulary : SuggestionKind → List Text
  | .attribute => Vocabulary.attributes
  | .tag | .element => Vocabulary.tags

/-- The suggestions for the text before the caret. -/
def offer (before : Text) (limit : Nat) : List Suggestion :=
  match Context.ofText? before with
  | none => []
  | some context =>
    (matching (vocabulary context.kind) context.token.text limit).map (⟨·, context.kind⟩)

/-- What a tag suggestion inserts after the `<`, and the caret inside it. -/
def tagInsertion (name : Text) : Text × Nat :=
  if Vocabulary.isVoid name then (name ++ ['>'], size name + 1)
  else (name ++ ['>'] ++ Shorthand.closingTag name, size name + 1)

/-- What an element suggestion inserts, and the caret inside it. -/
def elementInsertion (name : Text) : Text × Nat :=
  let (insertion, caret) := tagInsertion name
  ('<' :: insertion, caret + 1)

/-- What an attribute suggestion inserts, and the caret inside it: the stem of a family,
a bare name for a boolean attribute, and otherwise an empty value in quotes. -/
def attributeInsertion (name : Text) : Text × Nat :=
  match Vocabulary.familyStem? name with
  | some stem => (stem, size stem)
  | none =>
    if Vocabulary.isBooleanAttribute name then (name, size name)
    else (name ++ ['=', '"', '"'], size name + 2)

/-- What is replaced and what replaces it when a suggestion is accepted after the text
`before`: the text kept, the insertion and the caret inside it.  A tag needs its `<`
before the token, and an element needs a token. -/
def replacement? (s : Suggestion) (before : Text) : Option (Text × Text × Nat) :=
  match s.kind with
  | .tag =>
    let head := (splitTrailing Char.isAlphanum before).1
    if head.getLast? = some '<' then some (head, tagInsertion s.value) else none
  | .element =>
    let (head, word) := splitTrailing Char.isAlphanum before
    if word = [] then none else some (head, elementInsertion s.value)
  | .attribute =>
    some ((splitTrailing Token.isAttributeChar before).1, attributeInsertion s.value)

/-- The text after a suggestion is accepted at the caret.  It is unchanged when the caret
is no boundary or the token for the suggestion is not there. -/
def accept (s : Suggestion) (t : Text) (caret : Nat) : Completion :=
  match t.splitAt? caret with
  | none => ⟨t, caret⟩
  | some (before, after) =>
    match s.replacement? before with
    | none => ⟨t, caret⟩
    | some (head, insertion, inside) => ⟨head ++ insertion ++ after, size head + inside⟩

end Suggestion

end MarkupPad
