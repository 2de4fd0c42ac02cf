import MarkupPad.Buffer.Offset
import MarkupPad.Caret

/-!
# Moving and editing in a buffer

Characters and lines around an offset, the motions of the caret and the plain edits, all
by offsets.

    move? t s motion = Caret.move? t s motion
    backspace? t s = Edit.backspace? t s,   delete? t s = Edit.delete? t s
    duplicate? t s = Edit.duplicate? t s
-/

namespace MarkupPad.Buffer

open Text

/-! ## Characters and lines around an offset -/

/-- The boundary one character before an offset, or 0. -/
def prevBoundary? (t : Text) (offset : Nat) : Option Nat := do
  let before ← t.before? offset
  match before.getLast? with
  | none => return 0
  | some c => minus? offset c.utf8Size

/-- The boundary one character after an offset, or the offset itself at the end. -/
def nextBoundary? (t : Text) (offset : Nat) : Option Nat := do
  let after ← t.after? offset
  match after.head? with
  | none => return offset
  | some c => return offset + c.utf8Size

/-- The offset of the first character of the line. -/
def lineStart? (t : Text) (offset : Nat) : Option Nat := do
  let before ← t.before? offset
  return afterLast '\n' before

/-- The offset of the newline that ends the line, or the size of the text. -/
def lineEnd? (t : Text) (offset : Nat) : Option Nat := do
  let after ← t.after? offset
  match find? '\n' after with
  | none => return size t
  | some i => return offset + i

/-- The number of characters on the last line. -/
def column? (t : Text) : Option Nat := do
  let line ← t.after? (← lineStart? t (size t))
  return line.length

/-- The offset so many characters into the line that starts at `start`, or the end of that
line. -/
def atColumn? (t : Text) (start column : Nat) : Option Nat := do
  let stop ← lineEnd? t start
  let line ← t.slice? start stop
  return if column < line.length then start + size (line.take column) else stop

/-! ## The caret -/

/-- One line up in the same column. -/
def up? (t : Text) (caret : Nat) : Option Nat := do
  let start ← lineStart? t caret
  if start = 0 then return 0
  let line ← t.slice? start caret
  atColumn? t (← lineStart? t (← minus? start 1)) line.length

/-- One line down in the same column. -/
def down? (t : Text) (caret : Nat) : Option Nat := do
  let stop ← lineEnd? t caret
  if stop = size t then return size t
  let line ← t.slice? (← lineStart? t caret) caret
  atColumn? t (stop + 1) line.length

/-- Where the caret goes from a selection. -/
def move? (t : Text) (s : Selection) : Motion → Option Nat
  | .left => if s.isCollapsed then prevBoundary? t s.stop else some s.start
  | .right => if s.isCollapsed then nextBoundary? t s.stop else some s.stop
  | .home => lineStart? t s.stop
  | .toEnd => lineEnd? t s.stop
  | .up => up? t s.stop
  | .down => down? t s.stop

/-! ## Edits -/

/-- The text without the selection, or without the character before the caret; nothing
(`some none`) at the beginning of the text. -/
def backspace? (t : Text) (s : Selection) : Option (Option Edit) := do
  if s.isCollapsed then
    if s.start = 0 then return none
    return some (← Edit.replace? t ⟨← prevBoundary? t s.start, s.stop⟩ [])
  return some (← Edit.replace? t ⟨s.start, s.stop⟩ [])

/-- The text without the selection, or without the character after the caret; nothing
(`some none`) at the end of the text. -/
def delete? (t : Text) (s : Selection) : Option (Option Edit) := do
  if s.isCollapsed then
    if size t ≤ s.stop then return none
    return some (← Edit.replace? t ⟨s.start, ← nextBoundary? t s.stop⟩ [])
  return some (← Edit.replace? t ⟨s.start, s.stop⟩ [])

/-- The selection twice, with the second copy selected; with a caret, the line twice, with
the caret at its place in the second copy. -/
def duplicate? (t : Text) (s : Selection) : Option Edit := do
  if s.isCollapsed then
    let start ← lineStart? t s.start
    let stop ← lineEnd? t s.start
    let line ← t.slice? start stop
    return .collapsed ((← t.before? stop) ++ '\n' :: line ++ (← t.after? stop))
      (s.start + size line + 1)
  let copied ← t.slice? s.start s.stop
  return ⟨(← t.before? s.stop) ++ copied ++ (← t.after? s.stop),
    ⟨s.stop, s.stop + size copied⟩⟩

end MarkupPad.Buffer
