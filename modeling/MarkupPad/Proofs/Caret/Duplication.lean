import MarkupPad.Proofs.Buffer.Inverse
import MarkupPad.Proofs.Caret.Grid

/-!
# Duplicated lines and selections

At a caret the line of the grid is repeated right below itself, and the caret goes to its place in
the copy.  A selection is repeated right behind itself, and the copy is selected, so that deleting
it gives the text back.

    duplicate? p.text (.collapsed (size p.before)) =
      some (.collapsed p.inCopy.text (size p.inCopy.before))                (duplicate?_before)
    duplicate? (a ++ m ++ b) ⟨size a, size (a ++ m)⟩ =
      some ⟨a ++ m ++ m ++ b, ⟨size (a ++ m), size (a ++ m ++ m)⟩⟩        (duplicate?_selected)
-/

namespace MarkupPad

open Text

namespace Caret

/-! ## Lines -/

namespace Place

/-- The same place in a copy of the line right below it. -/
def inCopy (p : Place) : Place where
  above := p.above ++ [p.line]
  line := p.line
  below := p.below
  column := p.column
  not_mem := by
    intro row hrow
    apply p.not_mem row
    simp only [List.mem_append, List.mem_cons, List.not_mem_nil, or_false] at hrow ⊢
    rcases hrow with (h | h) | h | h
    · exact Or.inl h
    · exact Or.inr (Or.inl h)
    · exact Or.inr (Or.inl h)
    · exact Or.inr (Or.inr h)

variable (p : Place)

/-- The copy begins behind the line and its newline. -/
theorem size_before_inCopy : size p.inCopy.before = size p.before + size p.line + 1 := by
  have hnewline : size ['\n'] = 1 := rfl
  simp only [before, inCopy, textAbove_concat, size_append, hnewline]
  omega

/-- **At a place the line is repeated, and the caret goes to the same place in the copy.** -/
theorem duplicate?_before :
    Buffer.duplicate? p.text (.collapsed (size p.before)) =
      some (.collapsed p.inCopy.text (size p.inCopy.before)) := by
  have hcollapsed : (Selection.collapsed (size p.before)).isCollapsed = true := decide_eq_true rfl
  have hleft : (splitTrailing (· != '\n') p.before).2 = p.line.take p.column :=
    congrArg Prod.snd p.lineBefore_before
  have hline : p.line.take p.column ++ p.line.drop p.column = p.line := List.take_append_drop _ _
  have htext : p.before ++ p.line.drop p.column ++ '\n' :: p.line ++ textBelow p.below =
      p.inCopy.text := by
    have hbefore : p.before ++ p.line.drop p.column = textAbove p.above ++ p.line := by
      rw [before, List.append_assoc, hline]
    rw [hbefore, text_eq, join_append_cons]
    simp [inCopy]
  rw [Buffer.duplicate?_eq, Edit.duplicate?, hcollapsed, Selection.collapsed, text]
  simp only [Bool.not_true, Bool.false_eq_true, if_false, splitAt?_append, Option.bind_eq_bind,
    Option.bind_some, Option.pure_def, hleft, takeWhile_after, dropWhile_after, hline, htext,
    size_before_inCopy]

/-- The lines with the copy are those up to the line, and then again those from it on. -/
theorem grid_inCopy :
    grid p.inCopy.text =
      (grid p.text).take (p.above.length + 1) ++ (grid p.text).drop p.above.length := by
  have htake : (p.above ++ p.line :: p.below).take (p.above.length + 1) = p.above ++ [p.line] := by
    rw [List.take_append, List.take_of_length_le (Nat.le_succ _), Nat.add_sub_cancel_left]
    rfl
  rw [grid_text, grid_text, htake, List.drop_left]
  rfl

theorem length_above_inCopy : p.inCopy.above.length = p.above.length + 1 := List.length_append

end Place

end Caret

/-! ## Selections -/

namespace Edit

/-- **A selection is repeated behind itself, and the copy is selected.** -/
theorem duplicate?_selected {a m b : Text}
    (h : Selection.isCollapsed ⟨size a, size (a ++ m)⟩ = false) :
    Buffer.duplicate? (a ++ m ++ b) ⟨size a, size (a ++ m)⟩ =
      some ⟨a ++ m ++ m ++ b, ⟨size (a ++ m), size (a ++ m ++ m)⟩⟩ := by
  rw [Buffer.duplicate?_eq, duplicate?, h, size_append (a ++ m)]
  simp only [Bool.not_false, if_true, slice?_append, splitAt?_append, Option.bind_eq_bind,
    Option.bind_some, Option.pure_def]

end Edit

namespace Caret

/-- **Duplication repeats one line, or the selection.**  Wherever the caret stands, that is on one
line; this line is repeated right below itself, and the caret goes to the copy, as many characters
and bytes into it.  A selection is repeated right behind itself, and just the copy is selected, so
that deleting it gives the text back. -/
theorem duplication_repeats (t : Text) :
    (∀ caret, IsBoundary t caret → ∃ row line column, StandsAt t caret row line column ∧
      (∀ row' line' column', StandsAt t caret row' line' column' →
        row' = row ∧ column' = column) ∧
      ∃ t' caret', Buffer.duplicate? t (.collapsed caret) = some (.collapsed t' caret') ∧
        grid t' = (grid t).take (row + 1) ++ (grid t).drop row ∧
        StandsAt t' caret' (row + 1) line column ∧
        caret = offsetAt (grid t) row 0 + size (line.take column) ∧
        caret' = offsetAt (grid t') (row + 1) 0 + size (line.take column)) ∧
    ∀ s : Selection, s.Fits t → s.isCollapsed = false →
      ∃ e, Buffer.duplicate? t s = some e ∧
        e.text.utf8 =
          t.utf8.take s.stop ++ (t.utf8.take s.stop).drop s.start ++ t.utf8.drop s.stop ∧
        e.selection = ⟨s.stop, s.stop + s.length⟩ ∧
        (∃ copied, t.slice? s.start s.stop = some copied ∧
          e.text.slice? e.selection.start e.selection.stop = some copied) ∧
        Buffer.backspace? e.text e.selection = some (some (.collapsed t s.stop)) ∧
        Buffer.delete? e.text e.selection = some (some (.collapsed t s.stop)) := by
  refine ⟨fun caret hcaret => ?line, fun s hs hselected => ?selection⟩
  case line =>
    obtain ⟨p, rfl, rfl, hcolumn⟩ := exists_place hcaret
    have h := p.standsAt hcolumn
    have hcopy : StandsAt p.inCopy.text (size p.inCopy.before) (p.above.length + 1) p.line
        p.column := by
      rw [← p.length_above_inCopy]
      exact p.inCopy.standsAt hcolumn
    refine ⟨_, _, _, h, fun row' line' column' h' => h.unique h', _, _, p.duplicate?_before,
      p.grid_inCopy, hcopy, h.caret_eq_add, hcopy.caret_eq_add⟩
  case selection =>
    obtain ⟨a, m, b, rfl, rfl⟩ := Selection.fits_iff.1 hs
    have hlength : Selection.length ⟨size a, size (a ++ m)⟩ = size m := by
      rw [Selection.length, size_append, Nat.add_sub_cancel_left]
    have hcopy : Selection.isCollapsed ⟨size (a ++ m), size (a ++ m ++ m)⟩ = false := by
      rw [Selection.isCollapsed, decide_eq_false_iff_not] at hselected ⊢
      simp only [size_append] at hselected ⊢
      omega
    have hdelete := Edit.replace?_append (a ++ m) m b []
    obtain ⟨hback, hforward⟩ := Edit.backspace?_of_selected (t := a ++ m ++ m ++ b) hcopy
    rw [hdelete, List.append_nil, size_nil, Nat.add_zero] at hback hforward
    refine ⟨_, Edit.duplicate?_selected hselected, ?_, ?_, ⟨m, slice?_append a m b,
      slice?_append (a ++ m) m b⟩, ?_, ?_⟩
    · rw [take_utf8_append, drop_utf8_append, drop_utf8_append]
      simp only [utf8_append]
    · rw [hlength, ← size_append]
    · rw [Buffer.backspace?_eq]
      exact hback
    · rw [Buffer.delete?_eq]
      exact hforward

/-- Between the two characters of the first line, and with the second of them selected. -/
theorem duplication_repeats_line_and_selection :
    IsBoundary "éa\nb".toList 2 ∧ Selection.Fits ⟨2, 3⟩ "éa\nb".toList ∧
      Buffer.duplicate? "éa\nb".toList (.collapsed 2) =
        some (.collapsed "éa\néa\nb".toList 6) ∧
      grid "éa\néa\nb".toList = ["éa".toList, "éa".toList, "b".toList] ∧
      Buffer.duplicate? "éa\nb".toList ⟨2, 3⟩ = some ⟨"éaa\nb".toList, ⟨3, 4⟩⟩ ∧
      Buffer.backspace? "éaa\nb".toList ⟨3, 4⟩ = some (some (.collapsed "éa\nb".toList 3)) := by
  have hcaret : IsBoundary "éa\nb".toList 2 := ⟨"é".toList, "a\nb".toList, rfl, rfl⟩
  have hfits : Selection.Fits ⟨2, 3⟩ "éa\nb".toList :=
    ⟨by decide, hcaret, "éa".toList, "\nb".toList, rfl, rfl⟩
  have hstands : StandsAt "éa\nb".toList 2 0 "éa".toList 1 := ⟨rfl, by decide, rfl⟩
  obtain ⟨hline, hselection⟩ := duplication_repeats "éa\nb".toList
  obtain ⟨row, line, column, -, hunique, t', caret', hcopied, hgrid, -⟩ := hline 2 hcaret
  obtain ⟨rfl, rfl⟩ := hunique 0 "éa".toList 1 hstands
  obtain ⟨e, hduplicate, -, -, -, hback, -⟩ := hselection ⟨2, 3⟩ hfits rfl
  cases hcopied
  cases hduplicate
  exact ⟨hcaret, hfits, rfl, hgrid, rfl, hback⟩

end Caret

end MarkupPad
