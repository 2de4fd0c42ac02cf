import MarkupPad.Shorthand

/-!
# Completions: a new text and where the caret goes

Every completion replaces a part of the text by an insertion and puts the caret at a
place inside the insertion.  Replacement fails only when an offset is no boundary of the
text.

    splice? (a ++ m ++ b) (size a) (size (a ++ m)) ins caret = some ⟨a ++ ins ++ b, size a + caret⟩
                                                                            (splice?_append)
-/

namespace MarkupPad

open Text

/-- A whole new text with the caret's offset in it. -/
structure Completion where
  text : Text
  caret : Nat
  deriving Repr, DecidableEq

namespace Completion

/-! ## Algorithm -/

/-- Replaces the text from `start` to `stop`; `caret` is measured inside the insertion. -/
def splice? (t : Text) (start stop : Nat) (insertion : Text) (caret : Nat) :
    Option Completion := do
  let head ← t.before? start
  let tail ← t.after? stop
  return ⟨head ++ insertion ++ tail, start + caret⟩

/-- The document skeleton in place of the `!` before the caret. -/
def boilerplate? (t : Text) (caret : Nat) : Option Completion :=
  splice? t (caret - 1) caret Vocabulary.boilerplate (size Vocabulary.boilerplate)

/-- A comment in place of the `<-` before the caret. -/
def comment? (t : Text) (caret : Nat) : Option Completion :=
  splice? t (caret - 2) caret Vocabulary.comment Vocabulary.commentCaret

/-- The element in place of its shorthand; the caret goes before the `>` of the opening
tag, where attributes are added. -/
def shorthand? (t : Text) (token : Token) : Option Completion :=
  let element := Shorthand.ofToken token.text
  splice? t token.start token.stop element.element (size element.openTagHead)

/-- The blanks at the front of the last line. -/
def indent (before : Text) : Text :=
  (splitTrailing (· != '\n') before).2.takeWhile isBlank

/-- An indented line of its own for the caret, between an opening and a closing tag. -/
def betweenTags? (t : Text) (caret : Nat) : Option Completion := do
  let indent := indent (← t.before? caret)
  let inner := indent ++ [' ', ' ']
  splice? t caret caret (['\n'] ++ inner ++ ['\n'] ++ indent) (1 + size inner)

/-- The `>` that ends an opening tag together with the closing tag; the caret goes between
the two. -/
def autoClose? (t : Text) (start stop : Nat) (name : Text) : Option Completion :=
  splice? t start stop (['>'] ++ Shorthand.closingTag name) 1

/-! ## Lemmas -/

theorem splice?_append (a m b insertion : Text) (caret : Nat) :
    splice? (a ++ m ++ b) (size a) (size (a ++ m)) insertion caret =
      some ⟨a ++ insertion ++ b, size a + caret⟩ := by
  have h1 : before? (a ++ m ++ b) (size a) = some a :=
    before?_eq_some_iff.2 ⟨m ++ b, by simp⟩
  have h2 : after? (a ++ m ++ b) (size (a ++ m)) = some b := after?_eq_some_iff.2 ⟨a ++ m, rfl, rfl⟩
  rw [splice?, h1, h2]
  rfl

end Completion

/-- What the Enter key expands before a collapsed caret. -/
inductive Trigger where
  /-- `!` stands before the caret. -/
  | boilerplate
  /-- `<-` stands before the caret. -/
  | comment
  /-- A shorthand stands before the caret. -/
  | shorthand (token : Token)
  /-- The caret stands between `>` and `<`. -/
  | betweenTags
  deriving Repr, DecidableEq

namespace Trigger

/-! ## Algorithm -/

/-- Does the text end with `!`? -/
def endsBoilerplate (before : Text) : Bool := before.endsWith ['!']

/-- Does the text end with `<-`? -/
def endsComment (before : Text) : Bool := before.endsWith ['<', '-']

/-- Does `>` stand before the caret and `<` after it? -/
def standsBetweenTags (t : Text) (caret : Nat) : Bool :=
  match t.splitAt? caret with
  | none => false
  | some (before, after) => before.getLast? = some '>' && after.head? = some '<'

/-- What Enter expands at the caret, the first that fits in the order of the
constructors. -/
def at? (t : Text) (caret : Nat) : Option Trigger :=
  match t.before? caret with
  | none => none
  | some before =>
    if endsBoilerplate before then some boilerplate
    else if endsComment before then some comment
    else match Shorthand.token? before with
      | some token => some (shorthand token)
      | none => if standsBetweenTags t caret then some betweenTags else none

/-- The text after the expansion. -/
def expand? (t : Text) (caret : Nat) : Trigger → Option Completion
  | boilerplate => Completion.boilerplate? t caret
  | comment => Completion.comment? t caret
  | shorthand token => Completion.shorthand? t token
  | betweenTags => Completion.betweenTags? t caret

end Trigger

end MarkupPad
