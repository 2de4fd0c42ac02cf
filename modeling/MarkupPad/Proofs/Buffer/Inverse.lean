import MarkupPad.Proofs.Buffer.Line
import MarkupPad.Proofs.Editor.Edit
import MarkupPad.Text.Utf8

/-!
# Edits and motions by one character take each other back

A character stands between two texts.  It is typed between them, taken away from behind and from
before, and passed to the left and to the right; what one of these does, another one takes back.
Where something is selected, backspace and delete both take just that away.

    replace? (a ++ b) (.collapsed (size a)) [c] =
      some (.collapsed (a ++ [c] ++ b) (size (a ++ [c])))                     (replace?_caret)
    backspace? (a ++ [c] ++ b) (.collapsed (size (a ++ [c]))) =
      some (some (.collapsed (a ++ b) (size a)))                              (backspace?_append)
    delete? (a ++ c :: b) (.collapsed (size a)) =
      some (some (.collapsed (a ++ b) (size a)))                              (delete?_append)
-/

namespace MarkupPad

open Text

namespace Edit

/-- At a caret nothing is replaced. -/
theorem replace?_caret (a b insertion : Text) :
    replace? (a ++ b) (.collapsed (size a)) insertion =
      some (collapsed (a ++ insertion ++ b) (size (a ++ insertion))) := by
  have h := replace?_append a [] b insertion
  rw [List.append_nil, ← size_append] at h
  exact h

/-- Where something is selected, backspace and delete replace it by nothing. -/
theorem backspace?_of_selected {t : Text} {s : Selection} (h : s.isCollapsed = false) :
    backspace? t s = some <$> replace? t s [] ∧ delete? t s = some <$> replace? t s [] := by
  rw [backspace?, delete?, h]
  exact ⟨rfl, rfl⟩

/-- What is replaced by nothing are the selected bytes. -/
theorem replace?_nil {t : Text} {s : Selection} (h : s.Fits t) :
    ∃ e, replace? t s [] = some e ∧ e.text.utf8 = t.utf8.take s.start ++ t.utf8.drop s.stop ∧
      e.selection = .collapsed s.start := by
  obtain ⟨a, m, b, rfl, rfl⟩ := Selection.fits_iff.1 h
  refine ⟨_, replace?_append a m b [], ?_, rfl⟩
  have hhead : (utf8 (a ++ m ++ b)).take (size a) = utf8 a := by
    rw [List.append_assoc, take_utf8_append]
  rw [hhead, drop_utf8_append]
  show utf8 (a ++ [] ++ b) = _
  rw [List.append_nil, utf8_append]

end Edit

namespace Buffer

section
variable (a : Text) (c : Char) (b : Text)

theorem move?_left_append :
    move? (a ++ [c] ++ b) (.collapsed (size (a ++ [c]))) .left = some (size a) := by
  have hprev := prevBoundary?_append (a ++ [c]) b
  rw [List.dropLast_concat] at hprev
  rw [move?, Selection.isCollapsed, Selection.collapsed, decide_eq_true rfl, if_pos rfl, hprev]

theorem move?_right_append :
    move? (a ++ [c] ++ b) (.collapsed (size a)) .right = some (size (a ++ [c])) := by
  have hnext := nextBoundary?_append a ([c] ++ b)
  rw [← List.append_assoc] at hnext
  rw [move?, Selection.isCollapsed, Selection.collapsed, decide_eq_true rfl, if_pos rfl, hnext,
    size_append]
  rfl

end

/-- Only at the beginning of a text there is nothing for backspace to take away. -/
theorem backspace?_eq_none_iff (a b : Text) :
    backspace? (a ++ b) (.collapsed (size a)) = some none ↔ size a = 0 := by
  rw [backspace?_eq]
  rcases List.eq_nil_or_concat a with rfl | ⟨a, c, rfl⟩
  · exact ⟨fun _ => rfl, fun _ => rfl⟩
  · have hpos := c.utf8Size_pos
    rw [List.concat_eq_append, Edit.backspace?_append, size_append, size_cons]
    constructor
    · rintro ⟨⟩
    · omega

/-- Only at the end of a text there is nothing for delete to take away. -/
theorem delete?_eq_none_iff (a b : Text) :
    delete? (a ++ b) (.collapsed (size a)) = some none ↔ size a = size (a ++ b) := by
  rw [delete?_eq]
  cases b with
  | nil =>
    rw [List.append_nil]
    refine ⟨fun _ => rfl, fun _ => ?_⟩
    rw [Edit.delete?, Selection.isCollapsed, Selection.collapsed]
    simp
  | cons c b =>
    have hpos := c.utf8Size_pos
    rw [Edit.delete?_append, size_append, size_cons]
    constructor
    · rintro ⟨⟩
    · omega

/-- **Edits and motions by one character take each other back.**  At a caret: a character that is
typed is taken away by backspace, and by delete with the caret put back; backspace does what delete
does one character to the left; Left and Right take each other back; and backspace and delete do
nothing just at the ends of the text.  At any selection that fits: every edit fits and every motion
comes to where the text can be cut; and where something is selected, backspace and delete both take
just the selected bytes away. -/
theorem character_edits_are_inverse (t : Text) :
    (∀ caret, IsBoundary t caret →
      (∀ c, ∃ typed, Edit.replace? t (.collapsed caret) [c] = some typed ∧
        backspace? typed.text typed.selection = some (some (.collapsed t caret)) ∧
        delete? typed.text (.collapsed caret) = some (some (.collapsed t caret))) ∧
      (0 < caret → ∃ left edit, move? t (.collapsed caret) .left = some left ∧
        backspace? t (.collapsed caret) = some (some edit) ∧
        delete? t (.collapsed left) = some (some edit) ∧
        move? t (.collapsed left) .right = some caret) ∧
      (caret < size t → ∃ right, move? t (.collapsed caret) .right = some right ∧
        move? t (.collapsed right) .left = some caret) ∧
      (backspace? t (.collapsed caret) = some none ↔ caret = 0) ∧
      (delete? t (.collapsed caret) = some none ↔ caret = size t)) ∧
    ∀ s : Selection, s.Fits t →
      (∀ insertion, ∃ e, Edit.replace? t s insertion = some e ∧ e.Fits) ∧
      (∃ e, backspace? t s = some e ∧ ∀ e' ∈ e, e'.Fits) ∧
      (∃ e, delete? t s = some e ∧ ∀ e' ∈ e, e'.Fits) ∧
      (∀ motion, ∃ n, move? t s motion = some n ∧ IsBoundary t n) ∧
      (s.isCollapsed = false → ∃ e, backspace? t s = some (some e) ∧ delete? t s = some (some e) ∧
        e.text.utf8 = t.utf8.take s.start ++ t.utf8.drop s.stop ∧
        e.selection = .collapsed s.start) := by
  constructor
  · rintro caret ⟨a, b, rfl, rfl⟩
    refine ⟨?typed, ?toLeft, ?toRight, backspace?_eq_none_iff a b, delete?_eq_none_iff a b⟩
    case typed =>
      intro c
      refine ⟨_, Edit.replace?_caret a b [c], ?_, ?_⟩
      · rw [backspace?_eq]
        exact Edit.backspace?_append a c b
      · have hdelete := Edit.delete?_append a c b
        rw [List.append_cons] at hdelete
        rw [delete?_eq]
        exact hdelete
    case toLeft =>
      intro hpos
      rcases List.eq_nil_or_concat a with rfl | ⟨a, c, rfl⟩
      · cases hpos
      · have hdelete := Edit.delete?_append a c b
        rw [List.append_cons] at hdelete
        rw [List.concat_eq_append]
        refine ⟨size a, .collapsed (a ++ b) (size a), move?_left_append a c b, ?_, ?_,
          move?_right_append a c b⟩
        · rw [backspace?_eq]
          exact Edit.backspace?_append a c b
        · rw [delete?_eq]
          exact hdelete
    case toRight =>
      intro hlt
      cases b with
      | nil =>
        rw [List.append_nil] at hlt
        exact absurd hlt (Nat.lt_irrefl _)
      | cons c b =>
        rw [List.append_cons]
        exact ⟨_, move?_right_append a c b, move?_left_append a c b⟩
  · intro s hs
    refine ⟨Edit.replace?_fits hs, ?_, ?_, ?_, ?selected⟩
    · rw [backspace?_eq]
      exact Edit.backspace?_fits hs
    · rw [delete?_eq]
      exact Edit.delete?_fits hs
    · intro motion
      rw [move?_eq]
      exact Caret.move?_isBoundary hs motion
    case selected =>
      intro hselected
      obtain ⟨hbackspace, hdelete⟩ := Edit.backspace?_of_selected (t := t) hselected
      obtain ⟨e, he, htext, hselection⟩ := Edit.replace?_nil hs
      rw [he] at hbackspace hdelete
      rw [backspace?_eq, delete?_eq]
      exact ⟨e, hbackspace, hdelete, htext, hselection⟩

/-- In front of a character of four bytes, with the one before it of two. -/
theorem character_edits_are_inverse_among_wide_characters :
    IsBoundary "é😀".toList 2 ∧ Selection.Fits ⟨0, 2⟩ "é😀".toList ∧
      move? "é😀".toList (.collapsed 2) .left = some 0 ∧
      move? "é😀".toList (.collapsed 0) .right = some 2 ∧
      move? "é😀".toList (.collapsed 2) .right = some 6 ∧
      backspace? "é😀".toList ⟨0, 2⟩ = some (some (.collapsed "😀".toList 0)) ∧
      delete? "é😀".toList ⟨0, 2⟩ = some (some (.collapsed "😀".toList 0)) := by
  have hcaret : IsBoundary "é😀".toList 2 := ⟨['é'], ['😀'], rfl, rfl⟩
  have hfits : Selection.Fits ⟨0, 2⟩ "é😀".toList := ⟨by decide, isBoundary_zero _, hcaret⟩
  obtain ⟨hat, hselected⟩ := character_edits_are_inverse "é😀".toList
  obtain ⟨-, htoLeft, htoRight, -, -⟩ := hat 2 hcaret
  obtain ⟨-, -, -, -, hedits⟩ := hselected ⟨0, 2⟩ hfits
  obtain ⟨left, edit, hleft, -, -, hback⟩ := htoLeft (by decide)
  obtain ⟨right, hright, -⟩ := htoRight (by decide)
  obtain ⟨e, hbackspace, hdelete, -, -⟩ := hedits rfl
  cases hleft
  cases hright
  cases hbackspace
  exact ⟨hcaret, hfits, rfl, hback, rfl, rfl, hdelete⟩

end Buffer

end MarkupPad
