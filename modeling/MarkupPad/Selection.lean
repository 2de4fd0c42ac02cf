import MarkupPad.Text.Basic

/-!
# Selections and plain edits

A selection is a pair of offsets, collapsed when they agree.  An edit is a whole new text
with the selection to show in it.  Edits fail (`none`) only when an offset they cut at is
no boundary of the text.

    replace? (a ++ m ++ b) ⟨size a, size (a ++ m)⟩ ins =
      some ⟨a ++ ins ++ b, collapsed (size a + size ins)⟩               (replace?_append)
-/

namespace MarkupPad

open Text

/-- A range of the active buffer, in byte offsets. -/
structure Selection where
  start : Nat
  stop : Nat
  deriving Repr, DecidableEq

/-- A whole new text with the selection to show in it. -/
structure Edit where
  text : Text
  selection : Selection
  deriving Repr, DecidableEq

namespace Selection

/-! ## Algorithm -/

/-- The selection that is just a caret. -/
def collapsed (offset : Nat) : Selection := ⟨offset, offset⟩

/-- Is the selection just a caret? -/
def isCollapsed (s : Selection) : Bool := s.start = s.stop

/-- The number of bytes selected. -/
def length (s : Selection) : Nat := s.stop - s.start

/-- An ordered selection on boundaries of the text, as near below the two offsets as
possible. -/
def clamp (t : Text) (a b : Nat) : Selection :=
  if a ≤ b then ⟨floorBoundary t a, floorBoundary t b⟩
  else ⟨floorBoundary t b, floorBoundary t a⟩

/-- A selection that fits a text: ordered and on boundaries. -/
def Fits (s : Selection) (t : Text) : Prop :=
  s.start ≤ s.stop ∧ IsBoundary t s.start ∧ IsBoundary t s.stop

end Selection

namespace Edit

/-! ## Algorithm -/

/-- The edit that leaves a caret. -/
def collapsed (t : Text) (offset : Nat) : Edit := ⟨t, .collapsed offset⟩

/-- The insertion in place of the selection, with the caret after it. -/
def replace? (t : Text) (s : Selection) (insertion : Text) : Option Edit := do
  let head ← t.before? s.start
  let tail ← t.after? s.stop
  return collapsed (head ++ insertion ++ tail) (s.start + size insertion)

/-- The text without the selection, or without the character before the caret; nothing
(`some none`) at the beginning of the text. -/
def backspace? (t : Text) (s : Selection) : Option (Option Edit) :=
  if !s.isCollapsed then some <$> replace? t s []
  else if s.start = 0 then some none
  else do
    let before ← t.before? s.start
    let width := (before.getLast?.map Char.utf8Size).getD s.start
    some <$> replace? t ⟨s.start - width, s.stop⟩ []

/-- The text without the selection, or without the character after the caret; nothing
(`some none`) at the end of the text. -/
def delete? (t : Text) (s : Selection) : Option (Option Edit) :=
  if !s.isCollapsed then some <$> replace? t s []
  else if size t ≤ s.stop then some none
  else do
    let after ← t.after? s.stop
    let width := (after.head?.map Char.utf8Size).getD 0
    some <$> replace? t ⟨s.start, s.stop + width⟩ []

/-- The selection twice, with the second copy selected; with a caret, the line twice, with
the caret at its place in the second copy. -/
def duplicate? (t : Text) (s : Selection) : Option Edit :=
  if !s.isCollapsed then do
    let copied ← t.slice? s.start s.stop
    let (head, tail) ← t.splitAt? s.stop
    return ⟨head ++ copied ++ tail, ⟨s.stop, s.stop + size copied⟩⟩
  else do
    let (before, after) ← t.splitAt? s.start
    let line := (splitTrailing (· != '\n') before).2 ++ after.takeWhile (· != '\n')
    let head := before ++ after.takeWhile (· != '\n')
    let tail := after.dropWhile (· != '\n')
    return collapsed (head ++ '\n' :: line ++ tail) (s.start + size line + 1)

/-! ## Lemmas -/

theorem replace?_append (a m b insertion : Text) :
    replace? (a ++ m ++ b) ⟨size a, size (a ++ m)⟩ insertion =
      some (collapsed (a ++ insertion ++ b) (size a + size insertion)) := by
  have h1 : before? (a ++ m ++ b) (size a) = some a :=
    before?_eq_some_iff.2 ⟨m ++ b, by simp⟩
  have h2 : after? (a ++ m ++ b) (size (a ++ m)) = some b :=
    after?_eq_some_iff.2 ⟨a ++ m, rfl, rfl⟩
  rw [replace?, h1, h2]
  rfl

end Edit

end MarkupPad
