import MarkupPad.Buffer.Line
import MarkupPad.Editor.Basic
import MarkupPad.Key

/-!
# What a key press does

The first of these that applies takes the press: the shortcuts for undo and duplication,
the open menu, the triggers of Enter, the automatic closing tag of `>`, and at last the
plain editing keys.
-/

namespace MarkupPad

open Text

/-- The action of a trigger. -/
def Trigger.action : Trigger → Action
  | boilerplate => .boilerplate
  | comment => .comment
  | shorthand _ => .shorthand
  | betweenTags => .betweenTags

/-- A completion as an edit that leaves a caret. -/
def Completion.toEdit (c : Completion) : Edit := .collapsed c.text c.caret

namespace Editor

/-! ## Algorithm -/

/-- The highlighted suggestion in place of the token before the caret. -/
def accept? (s : Editor) : Option (Outcome × Editor) :=
  match s.menu.highlighted? with
  | none => some (.unchanged, s)
  | some suggestion => do
    let completion ← Buffer.accept? suggestion s.text s.selection.start
    return s.perform .suggestion completion.toEdit

/-- What a key does in the open menu; nothing (`some none`) for keys that the menu does not
take. -/
def pressInMenu? (s : Editor) : Key → Option (Option (Outcome × Editor))
  | .down => some (some (.moved, { s with menu := s.menu.next }))
  | .up => do
    let menu ← s.menu.prev?
    return some (.moved, { s with menu := menu })
  | .enter | .tab => some <$> s.accept?
  | .escape => some (some (.moved, { s with menu := .empty }))
  | _ => some none

/-- The trigger that Enter expands: in the markup, at a caret. -/
def trigger? (s : Editor) (key : Key) : Option (Option Trigger) :=
  if key = .enter ∧ s.facet = .markup ∧ s.selection.isCollapsed then
    Buffer.trigger? s.text s.selection.start
  else some none

/-- The name of the element that `>` closes: in the markup, when it is so configured. -/
def autoClosed? (s : Editor) (key : Key) : Option (Option Text) :=
  if key = .char '>' ∧ s.facet = .markup ∧ s.config.autoClose then
    match s.text.before? s.selection.start with
    | none => some none
    | some before => Buffer.autoClosed? before
  else some none

/-- The caret at its new place. -/
def moveCaret? (s : Editor) (motion : Motion) : Option (Outcome × Editor) := do
  let offset ← Buffer.move? s.text s.selection motion
  if .collapsed offset = s.selection then return (.unchanged, s)
  return (.moved, { s with selection := .collapsed offset })

/-- The edit that a plain editing key makes; nothing (`some none`) for the others. -/
def edit? (s : Editor) (press : KeyPress) : Option (Option Edit) :=
  match press.key with
  | .char c =>
    if press.isChord then some none else some <$> Edit.replace? s.text s.selection [c]
  | .enter => some <$> Edit.replace? s.text s.selection ['\n']
  | .backspace => Buffer.backspace? s.text s.selection
  | .delete => Buffer.delete? s.text s.selection
  | _ => some none

/-- What a plain editing key does. -/
def pressPlain? (s : Editor) (press : KeyPress) : Option (Outcome × Editor) :=
  match press.key with
  | .left => s.moveCaret? .left
  | .right => s.moveCaret? .right
  | .up => s.moveCaret? .up
  | .down => s.moveCaret? .down
  | .home => s.moveCaret? .home
  | .toEnd => s.moveCaret? .toEnd
  | _ => do
    match ← s.edit? press with
    | none => return (.unchanged, s)
    | some edit => s.change? edit.text edit.selection

/-- What a key does that neither is a shortcut nor goes to the menu. -/
def pressInText? (s : Editor) (press : KeyPress) : Option (Outcome × Editor) := do
  match ← s.trigger? press.key with
  | some trigger =>
    let completion ← Buffer.expand? s.text s.selection.start trigger
    return s.perform trigger.action completion.toEdit
  | none =>
    match ← s.autoClosed? press.key with
    | some name =>
      let completion ← Completion.autoClose? s.text s.selection.start s.selection.stop name
      return s.perform .autoClose completion.toEdit
    | none => s.pressPlain? press

/-- Does the menu take key presses? -/
def menuIsOpen (s : Editor) : Bool := s.menu.isActive && s.config.predictions

/-- What a key press does. -/
def press? (s : Editor) (press : KeyPress) : Option (Outcome × Editor) :=
  if press.isUndo then some s.undo
  else if press.isDuplicate then do
    let edit ← Buffer.duplicate? s.text s.selection
    return s.perform .duplicate edit
  else do
    match ← if s.menuIsOpen then s.pressInMenu? press.key else some none with
    | some result => return result
    | none => s.pressInText? press

end Editor

end MarkupPad
