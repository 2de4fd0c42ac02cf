import MarkupPad.Selection

/-!
# Moving the caret on the grid of lines

A text is a grid of lines between newlines.  The caret moves by characters within a line
and keeps its column, counted in characters, from line to line.

    up from column c of a line goes to column min c m of the line above, m its length
-/

namespace MarkupPad

open Text

/-- The keys that move the caret. -/
inductive Motion where
  | left | right | up | down | home | toEnd
  deriving Repr, DecidableEq

namespace Caret

/-! ## Algorithm -/

/-- The text up to the caret's line, and the part of the line before the caret. -/
def lineBefore (before : Text) : Text × Text := splitTrailing (· != '\n') before

/-- The offset of the first character of the line. -/
def lineStart? (t : Text) (offset : Nat) : Option Nat :=
  (t.before? offset).map fun before => size (lineBefore before).1

/-- The offset of the newline that ends the line, or the size of the text. -/
def lineEnd? (t : Text) (offset : Nat) : Option Nat :=
  (t.after? offset).map fun after => offset + size (after.takeWhile (· != '\n'))

/-- The number of lines; an empty text has one. -/
def lineCount (t : Text) : Nat := t.count '\n' + 1

/-- The number of characters on the last line. -/
def column (t : Text) : Nat := (lineBefore t).2.length

/-- One line up in the same column, or the beginning of the text on the first line. -/
def up (before : Text) : Nat :=
  let (above, line) := lineBefore before
  if above = [] then 0
  else
    let (head, target) := lineBefore above.dropLast
    size head + size (target.take line.length)

/-- One line down in the same column, or the end of the text on the last line. -/
def down (before after : Text) : Nat :=
  let lineEnd := size before + size (after.takeWhile (· != '\n'))
  match after.dropWhile (· != '\n') with
  | [] => lineEnd
  | _ :: below =>
    let target := below.takeWhile (· != '\n')
    lineEnd + 1 + size (target.take (lineBefore before).2.length)

/-- Where the caret goes from between two texts. -/
def step (before after : Text) : Motion → Nat
  | .left => size before.dropLast
  | .right => size before + size (after.take 1)
  | .home => size (lineBefore before).1
  | .toEnd => size before + size (after.takeWhile (· != '\n'))
  | .up => up before
  | .down => down before after

/-- Where the caret goes from a selection.  Left and right collapse a selection to its
ends; all other motions start at its end. -/
def move? (t : Text) (s : Selection) (motion : Motion) : Option Nat :=
  if !s.isCollapsed && motion = .left then some s.start
  else if !s.isCollapsed && motion = .right then some s.stop
  else (t.splitAt? s.stop).map fun (before, after) => step before after motion

end Caret

end MarkupPad
