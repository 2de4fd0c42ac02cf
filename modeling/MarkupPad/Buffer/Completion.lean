import MarkupPad.Buffer.Line
import MarkupPad.Buffer.Shorthand
import MarkupPad.Buffer.Token
import MarkupPad.Suggestion.Basic

/-!
# Completing in a buffer

What Enter expands at the caret, what is offered there, and the text after an expansion or
an accepted suggestion.

    trigger? t caret = some (Trigger.at? t caret)
    offer? before limit = some (Suggestion.offer before limit)
    accept? s t caret = some (s.accept t caret)
-/

namespace MarkupPad.Buffer

open Text

/-! ## Expansions of Enter -/

/-- Does `>` stand before the caret and `<` after it? -/
def standsBetweenTags? (t : Text) (caret : Nat) : Option Bool := do
  if caret = 0 then return false
  let i ← minus? caret 1
  return holdsAt t.utf8 (· = '>') i && holdsAt t.utf8 (· = '<') caret

/-- What Enter expands at the caret. -/
def trigger? (t : Text) (caret : Nat) : Option (Option Trigger) :=
  match t.before? caret with
  | none => some none
  | some before =>
    if Trigger.endsBoilerplate before then some (some .boilerplate)
    else if Trigger.endsComment before then some (some .comment)
    else do
      match ← shorthand? before with
      | some token => return some (.shorthand token)
      | none => return if ← standsBetweenTags? t caret then some .betweenTags else none

/-- An indented line of its own for the caret, between an opening and a closing tag. -/
def betweenTags? (t : Text) (caret : Nat) : Option Completion := do
  let line ← t.slice? (← lineStart? t caret) caret
  let indent ← line.before? (← minus? (size line) (size (line.dropWhile isBlank)))
  let inner := indent ++ [' ', ' ']
  Completion.splice? t caret caret (['\n'] ++ inner ++ ['\n'] ++ indent) (1 + size inner)

/-- The text after an expansion. -/
def expand? (t : Text) (caret : Nat) : Trigger → Option Completion
  | .boilerplate => Completion.boilerplate? t caret
  | .comment => Completion.comment? t caret
  | .shorthand token => do
    let element ← ofToken? token.text
    Completion.splice? t token.start token.stop element.element (size element.openTagHead)
  | .betweenTags => betweenTags? t caret

/-! ## Suggestions -/

/-- The suggestions for the text before the caret. -/
def offer? (before : Text) (limit : Nat) : Option (List Suggestion) := do
  match ← context? before with
  | none => return []
  | some context =>
    return (Suggestion.matching (Suggestion.vocabulary context.kind) context.token.text limit).map
      (⟨·, context.kind⟩)

/-- The text with an insertion in place of the token before the caret. -/
def replaceToken? (t : Text) (token : Token) (caret : Nat) : Text × Nat → Option Completion
  | (insertion, inside) => Completion.splice? t token.start caret insertion inside

/-- The text after a suggestion is accepted at the caret. -/
def accept? (s : Suggestion) (t : Text) (caret : Nat) : Option Completion :=
  match t.before? caret with
  | none => some ⟨t, caret⟩
  | some before =>
    match s.kind with
    | .tag => do
      match ← tag? before with
      | none => return ⟨t, caret⟩
      | some context => replaceToken? t context.token caret (Suggestion.tagInsertion s.value)
    | .element => do
      let token ← trailing? Char.isAlphanum before
      if token.text = [] then return ⟨t, caret⟩
      replaceToken? t token caret (Suggestion.elementInsertion s.value)
    | .attribute => do
      let token ← trailing? Token.isAttributeChar before
      replaceToken? t token caret (Suggestion.attributeInsertion s.value)

end MarkupPad.Buffer
