import MarkupPad.Buffer.Boundary
import MarkupPad.Buffer.Completion
import MarkupPad.Buffer.Tag
import MarkupPad.Clock
import MarkupPad.Editor.Config
import MarkupPad.Project
import MarkupPad.Suggestion.Menu

/-!
# The state of an editor and how a change enters it

An editor holds a document, one of whose buffers is active, the selection in that buffer,
the history of the document and the menu of suggestions.  A change of the active buffer
arrives as a whole new text with its selection: if it renames an opening tag the closing
tag follows and the document is committed at once; otherwise it is committed when typing
has rested for a while.

An operation on an editor yields `none` when it cuts a text where it cannot be cut, or looks
for an offset below zero.
-/

namespace MarkupPad

open Text

/-- A rewriting of the active buffer that takes the place of a plain edit. -/
inductive Action where
  | undo | duplicate | boilerplate | comment | shorthand | betweenTags
  | autoClose | suggestion | rename
  deriving Repr, DecidableEq

/-- What a key press or a change has done. -/
inductive Outcome where
  /-- Nothing has changed. -/
  | unchanged
  /-- The caret or the menu has changed, but no text. -/
  | moved
  /-- The active buffer has been edited. -/
  | edited (edit : Edit)
  /-- An action has rewritten the active buffer and the document has been committed. -/
  | applied (action : Action) (edit : Edit)
  deriving Repr, DecidableEq

/-- The edit that an outcome carries. -/
def Outcome.edit? : Outcome → Option Edit
  | edited edit | applied _ edit => some edit
  | unchanged | moved => none

/-- An editing session of one project. -/
structure Editor where
  config : Config
  document : Document
  facet : Facet
  selection : Selection
  /-- The selection to be shown once the last edit has been rendered. -/
  pendingSelection : Option Selection
  history : History Document
  menu : Menu
  timer : Timer
  now : Nat

namespace Editor

/-! ## Algorithm -/

/-- An empty project with its markup active. -/
def new (config : Config) : Editor where
  config := config
  document := .empty
  facet := .markup
  selection := .collapsed 0
  pendingSelection := none
  history := .new .empty config.historyCapacity
  menu := .empty
  timer := .idle
  now := 0

/-- The active buffer. -/
def text (s : Editor) : Text := s.document.get s.facet

/-- The text and the selection of an edit go into the active buffer. -/
def install (s : Editor) (edit : Edit) : Editor :=
  { s with
    document := s.document.set s.facet edit.text
    selection := edit.selection
    pendingSelection := some edit.selection }

/-- The document goes into the history now; tells whether it was new there. -/
def commit (s : Editor) : Bool × Editor :=
  let (isNew, history) := s.history.commit s.document
  (isNew, { s with timer := .idle, history := history })

/-- The document goes into the history if a commit is pending. -/
def flush (s : Editor) : Bool × Editor :=
  if s.timer.isPending then s.commit else (false, s)

/-- The clock reads at least `time`; a commit that is due takes place.  Tells whether the
document was new in the history. -/
def tick (s : Editor) (time : Nat) : Bool × Editor :=
  let s := { s with now := max s.now time }
  if s.timer.isDue s.now then s.commit else (false, s)

/-- The clock goes on by a delay. -/
def advance (s : Editor) (delay : Nat) : Bool × Editor := s.tick (Clock.after s.now delay)

/-- The outcome of an action: its edit is installed, the menu closed and the document
committed. -/
def perform (s : Editor) (action : Action) (edit : Edit) : Outcome × Editor :=
  (.applied action edit, { s.install edit with menu := .empty }.commit.2)

/-- The menu for the text before the caret.  Only the markup has suggestions. -/
def refresh? (s : Editor) : Option Editor :=
  if s.facet = .markup ∧ s.config.predictions then do
    let before ← s.text.before? s.selection.start
    let suggestions ← Buffer.offer? before s.config.maxSuggestions
    return { s with menu := .ofList suggestions }
  else some { s with menu := .empty }

/-- The new text with the closing tag renamed along with the opening tag at the caret, in the
markup; nothing (`some none`) when the change renames no tag. -/
def renamed? (s : Editor) (t : Text) (caret : Nat) : Option (Option Text) :=
  if s.facet = .markup then Buffer.rename? s.text t caret else some none

/-- A new text for the active buffer, with a selection that is made to fit it. -/
def change? (s : Editor) (t : Text) (selection : Selection) : Option (Outcome × Editor) := do
  let selection ← Buffer.clamp? t selection.start selection.stop
  match ← s.renamed? t selection.start with
  | some renamed =>
    let edit : Edit := ⟨renamed, selection⟩
    let s ← (s.install edit).commit.2.refresh?
    return (.applied .rename edit, s)
  | none =>
    let edit : Edit := ⟨t, selection⟩
    let s ← { s.install edit with timer := .schedule s.now s.config.commitDelay }.refresh?
    return (.edited edit, s)

/-- One entry back in the history.  Typing that has not been committed yet becomes an entry
of its own first. -/
def undo (s : Editor) : Outcome × Editor :=
  let s := s.flush.2
  match s.history.undo? with
  | none => (.unchanged, s)
  | some history =>
    let s := { s with document := history.current, history := history, menu := .empty }
    let edit := Edit.collapsed s.text (size s.text)
    (.applied .undo edit,
      { s with selection := edit.selection, pendingSelection := some edit.selection })

end Editor

end MarkupPad
