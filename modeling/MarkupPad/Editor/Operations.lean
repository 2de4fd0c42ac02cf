import MarkupPad.Editor.Keys
import MarkupPad.Template

/-!
# The other operations on an editor

What a host can do with an editor besides pressing keys, and `Operation`, which names
every one of them.  The states of an editor are those that operations lead to from a new
one (`Reachable`).
-/

namespace MarkupPad

open Text

/-- A text with an addition on a line of its own. -/
def Text.appendLines (t addition : Text) : Text :=
  if t = [] then addition else t ++ '\n' :: addition

/-- The document with a template at the end of the markup and of the styles. -/
def Document.append (d : Document) (template : Template) : Document :=
  { d with
    markup := appendLines d.markup template.markup
    style := appendLines d.style template.style }

namespace Editor

/-! ## Algorithm -/

/-- Makes another buffer the active one, with the caret at its end. -/
def switchTo (s : Editor) (facet : Facet) : Editor :=
  let caret := Selection.collapsed (size (s.document.get facet))
  { s with facet := facet, menu := .empty, selection := caret, pendingSelection := some caret }

/-- Highlights the suggestion under the pointer; `none` when there is none. -/
def hover? (s : Editor) (index : Nat) : Option Editor :=
  (s.menu.hover? index).map fun menu => { s with menu := menu }

/-- Accepts the suggestion under the pointer. -/
def click? (s : Editor) (index : Nat) : Option (Outcome × Editor) :=
  match s.hover? index with
  | none => some (.unchanged, s)
  | some s => s.accept?

/-- Accepts the suggestion under the pointer, if the text can be cut at the caret. -/
def click (s : Editor) (index : Nat) : Outcome × Editor :=
  (s.click? index).getD (.unchanged, s)

/-- Selects a range of the active buffer.  The menu stays as it is. -/
def selected? (s : Editor) (start stop : Nat) : Option Editor := do
  let selection ← Buffer.clamp? s.text start stop
  return { s with selection := selection }

/-- Selects a range of the active buffer, if the text can be cut there. -/
def select (s : Editor) (start stop : Nat) : Editor := (s.selected? start stop).getD s

/-- Another document goes in with a selection, and is committed. -/
def installDocument (s : Editor) (document : Document) (selection : Selection) : Editor :=
  { s with
    document := document
    menu := .empty
    selection := selection
    pendingSelection := some selection }.commit.2

/-- Appends a template to the document.  The selection is made to fit what the active buffer
becomes. -/
def insertTemplate? (s : Editor) (template : Template) : Option Editor := do
  let document := s.document.append template
  let selection ← Buffer.clamp? (document.get s.facet) s.selection.start s.selection.stop
  return s.installDocument document selection

/-- Appends the template of an id; nothing (`some none`) when there is no such template. -/
def injected? (s : Editor) (id : Text) : Option (Option Editor) :=
  match Template.find? id with
  | none => some none
  | some template => some <$> s.insertTemplate? template

/-- Appends the template of an id, if there is one and the text can be cut at the selection. -/
def inject? (s : Editor) (id : Text) : Option Editor := (s.injected? id).join

/-- Another document, with a history of its own. -/
def load (s : Editor) (document : Document) : Editor :=
  { s with
    history := s.history.reset document
    document := document
    timer := .idle
    menu := .empty
    selection := .collapsed (size (document.get s.facet))
    pendingSelection := none }

/-- The selection to be shown after rendering becomes the current one; nothing (`some none`)
when no edit waits for that. -/
def rendered? (s : Editor) : Option (Option Editor) :=
  match s.pendingSelection with
  | none => some none
  | some selection => do
    let selection ← Buffer.clamp? s.text selection.start selection.stop
    return some { s with selection := selection, pendingSelection := none }

/-- The selection to be shown after rendering becomes the current one, if an edit waits for that
and the text can be cut there. -/
def finishRender? (s : Editor) : Option Editor := s.rendered?.join

/-- Turns automatic closing tags on or off. -/
def setAutoClose (s : Editor) (on : Bool) : Editor :=
  { s with config := { s.config with autoClose := on } }

/-- Turns suggestions on or off; off closes the menu. -/
def setPredictions (s : Editor) (on : Bool) : Editor :=
  { s with
    config := { s.config with predictions := on }
    menu := if on then s.menu else .empty }

/-- Where the menu pops up, while there is one. -/
def popup? (s : Editor) : Option (Option PopupPosition) :=
  if s.menu.isActive then do
    let before ← s.text.before? s.selection.start
    return some (s.config.popup.place (Caret.lineCount before) (← Buffer.column? before))
  else some none

end Editor

/-- Everything that can be done with an editor. -/
inductive Operation where
  | press (press : KeyPress)
  | change (t : Text) (selection : Selection)
  | switchTo (facet : Facet)
  | tick (time : Nat)
  | advance (delay : Nat)
  | hover (index : Nat)
  | click (index : Nat)
  | select (start stop : Nat)
  | inject (id : Text)
  | load (document : Document)
  | finishRender
  | flush
  | setAutoClose (on : Bool)
  | setPredictions (on : Bool)

namespace Editor

/-- The editor after an operation. -/
def perform? (s : Editor) : Operation → Option Editor
  | .press press => (s.press? press).map (·.2)
  | .change t selection => (s.change? t selection).map (·.2)
  | .switchTo facet => some (s.switchTo facet)
  | .tick time => some (s.tick time).2
  | .advance delay => some (s.advance delay).2
  | .hover index => some ((s.hover? index).getD s)
  | .click index => (s.click? index).map (·.2)
  | .select start stop => s.selected? start stop
  | .inject id => (s.injected? id).map (·.getD s)
  | .load document => some (s.load document)
  | .finishRender => s.rendered?.map (·.getD s)
  | .flush => some s.flush.2
  | .setAutoClose on => some (s.setAutoClose on)
  | .setPredictions on => some (s.setPredictions on)

/-- The editor after operations one after the other. -/
def run? (s : Editor) (operations : List Operation) : Option Editor :=
  operations.foldlM perform? s

/-- The states that operations lead to from a new editor. -/
inductive Reachable : Editor → Prop where
  | new (config : Config) : Reachable (.new config)
  | perform {s s' : Editor} (operation : Operation) :
      Reachable s → s.perform? operation = some s' → Reachable s'

end Editor

end MarkupPad
