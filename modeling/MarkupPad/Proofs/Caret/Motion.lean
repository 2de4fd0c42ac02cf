import MarkupPad.Proofs.Caret.Grid
import MarkupPad.Proofs.Editor.Edit

/-!
# Up, down and along a line

From a line of the grid the caret goes to the ends of the line, and to the lines above and below,
as many characters into them as it has come from, or to their end.  Above the first line and below
the last one are the ends of the text.

    (grid t)[row + 1]? = some next →
      move? t (.collapsed caret) .down = some (offsetAt (grid t) (row + 1) (min column next.length))
                                                                          (StandsAt.move?_down)
    (grid t)[r]? = some target → row = r + 1 →
      move? t (.collapsed caret) .up = some (offsetAt (grid t) r (min column target.length))
                                                                            (StandsAt.move?_up)
-/

namespace MarkupPad.Caret

open Text

/-! ## From a place -/

namespace Place

variable {p : Place}

theorem move?_eq (p : Place) (motion : Motion) :
    Buffer.move? p.text (.collapsed (size p.before)) motion =
      some (step p.before p.after motion) := by
  have hcollapsed : (Selection.collapsed (size p.before)).isCollapsed = true := decide_eq_true rfl
  rw [Buffer.move?_eq, Caret.move?, hcollapsed]
  simp only [Bool.not_true, Bool.false_and, Bool.false_eq_true, if_false]
  rw [Selection.collapsed, text, splitAt?_append]
  rfl

theorem step_home (p : Place) :
    step p.before p.after .home = offsetAt (grid p.text) p.above.length 0 := by
  rw [step, lineBefore_before, grid_text, offsetAt_append]
  rfl

theorem step_toEnd (p : Place) :
    step p.before p.after .toEnd = offsetAt (grid p.text) p.above.length p.line.length := by
  have hline := p.size_line
  rw [step, takeWhile_after, grid_text, offsetAt_append, List.take_length, before, size_append]
  omega

theorem step_down_of_last (h : p.below = []) : step p.before p.after .down = size p.text := by
  rw [step, down, takeWhile_after, dropWhile_after, h, text, after, h]
  simp

/-- The line below begins behind the newline of this one. -/
theorem step_down_of_below (hc : p.column ≤ p.line.length) {next : Text} {rest : List Text}
    (h : p.below = next :: rest) :
    step p.before p.after .down = offsetAt (grid p.text) (p.above.length + 1) p.column := by
  have hline := p.size_line
  -- the line below is the line of another place, at its beginning
  have hgrid : (p.above ++ [p.line]) ++ next :: rest = p.above ++ p.line :: p.below := by
    rw [h]
    simp
  let q : Place := ⟨p.above ++ [p.line], next, rest, 0, hgrid ▸ p.not_mem⟩
  have hnext : (next ++ textBelow rest).takeWhile (· != '\n') = next := q.takeWhile_after
  have hlen : p.above.length + 1 = (p.above ++ [p.line]).length := by simp
  have hnewline (t : Text) : size (t ++ ['\n']) = size t + 1 := size_append t ['\n']
  rw [step, down, takeWhile_after, dropWhile_after, h, lineBefore_before, grid_text, ← hgrid, hlen,
    offsetAt_append, textBelow_cons, textAbove_concat, hnewline, size_append, before, size_append]
  simp only [hnext, List.length_take, Nat.min_eq_left hc]
  omega

theorem step_up_of_first (h : p.above = []) : step p.before p.after .up = 0 := by
  rw [step, up, lineBefore_before, h]
  rfl

/-- The line above ends before its newline. -/
theorem step_up_of_above (hc : p.column ≤ p.line.length) {upper : List Text} {target : Text}
    (h : p.above = upper ++ [target]) :
    step p.before p.after .up = offsetAt (grid p.text) upper.length p.column := by
  -- the line above is the line of another place, at its end
  have hgrid : upper ++ target :: (p.line :: p.below) = p.above ++ p.line :: p.below := by
    rw [h]
    simp
  let q : Place := ⟨upper, target, p.line :: p.below, target.length, hgrid ▸ p.not_mem⟩
  have hq : textAbove p.above = q.before ++ ['\n'] := by
    rw [h, before, textAbove_concat, List.take_length]
  rw [step, up, lineBefore_before, hq]
  simp only [List.append_eq_nil_iff, List.cons_ne_nil, and_false, if_false, List.dropLast_concat,
    lineBefore_before, List.length_take, Nat.min_eq_left hc]
  rw [grid_text, ← hgrid, offsetAt_append]
  simp [q]

end Place

/-! ## From where a caret stands -/

variable {t line : Text} {caret row column : Nat}

namespace StandsAt

variable (h : StandsAt t caret row line column)
include h

theorem move?_home :
    Buffer.move? t (.collapsed caret) .home = some (offsetAt (grid t) row 0) := by
  obtain ⟨p, rfl, rfl, rfl, rfl, rfl⟩ := h.exists_place
  rw [p.move?_eq, p.step_home]

theorem move?_toEnd :
    Buffer.move? t (.collapsed caret) .toEnd = some (offsetAt (grid t) row line.length) := by
  obtain ⟨p, rfl, rfl, rfl, rfl, rfl⟩ := h.exists_place
  rw [p.move?_eq, p.step_toEnd]

theorem move?_down_of_last (hlast : row + 1 = (grid t).length) :
    Buffer.move? t (.collapsed caret) .down = some (size t) := by
  obtain ⟨p, rfl, rfl, rfl, rfl, rfl⟩ := h.exists_place
  have hbelow : p.below = [] := by
    rw [p.grid_text, List.length_append, List.length_cons] at hlast
    exact List.length_eq_zero_iff.1 (by omega)
  rw [p.move?_eq, Place.step_down_of_last hbelow]

theorem move?_down {next : Text} (hnext : (grid t)[row + 1]? = some next) :
    Buffer.move? t (.collapsed caret) .down =
      some (offsetAt (grid t) (row + 1) (min column next.length)) := by
  rw [offsetAt_min hnext]
  have hcolumn := h.column_le
  obtain ⟨p, rfl, rfl, rfl, rfl, rfl⟩ := h.exists_place
  have hrow : p.above.length + 1 - p.above.length = 1 := by omega
  rw [p.grid_text, List.getElem?_append_right (Nat.le_succ _), hrow, List.getElem?_cons_succ]
    at hnext
  obtain ⟨rest, hbelow⟩ := List.head?_eq_some_iff.1 (List.head?_eq_getElem?.trans hnext)
  rw [p.move?_eq, Place.step_down_of_below hcolumn hbelow]

theorem move?_up_of_first (hfirst : row = 0) :
    Buffer.move? t (.collapsed caret) .up = some 0 := by
  obtain ⟨p, rfl, rfl, rfl, rfl, rfl⟩ := h.exists_place
  rw [p.move?_eq, Place.step_up_of_first (List.length_eq_zero_iff.1 hfirst)]

theorem move?_up {r : Nat} {target : Text} (hr : row = r + 1)
    (htarget : (grid t)[r]? = some target) :
    Buffer.move? t (.collapsed caret) .up =
      some (offsetAt (grid t) r (min column target.length)) := by
  rw [offsetAt_min htarget]
  have hcolumn := h.column_le
  obtain ⟨p, rfl, rfl, hrow, rfl, rfl⟩ := h.exists_place
  rcases List.eq_nil_or_concat p.above with hnil | ⟨upper, last, habove⟩
  · rw [hnil, hr] at hrow
    cases hrow
  · rw [List.concat_eq_append] at habove
    rw [habove, List.length_append, hr] at hrow
    obtain rfl : upper.length = r := Nat.succ.inj hrow
    rw [p.move?_eq, Place.step_up_of_above hcolumn habove]

end StandsAt

/-- **The caret moves on the grid of lines.**  Wherever it stands in a text, that is on one line,
after so many characters of it.  Down and Up go to the same column of the line below or above, or
to its end where it is shorter; from the last line Down goes to the end of the text, and from the
first line Up to its beginning.  Home and End go to the ends of the line.  All of them come to
where the text can be cut, and Down is taken back by Up where the line below is long enough. -/
theorem caret_moves_on_grid (hcaret : IsBoundary t caret) :
    ∃ row line column, StandsAt t caret row line column ∧
      (∀ row' line' column', StandsAt t caret row' line' column' →
        row' = row ∧ column' = column) ∧
      (row + 1 = (grid t).length → Buffer.move? t (.collapsed caret) .down = some (size t)) ∧
      (∀ next, (grid t)[row + 1]? = some next →
        Buffer.move? t (.collapsed caret) .down =
          some (offsetAt (grid t) (row + 1) (min column next.length))) ∧
      (row = 0 → Buffer.move? t (.collapsed caret) .up = some 0) ∧
      (∀ r target, row = r + 1 → (grid t)[r]? = some target →
        Buffer.move? t (.collapsed caret) .up =
          some (offsetAt (grid t) r (min column target.length))) ∧
      Buffer.move? t (.collapsed caret) .home = some (offsetAt (grid t) row 0) ∧
      Buffer.move? t (.collapsed caret) .toEnd = some (offsetAt (grid t) row line.length) ∧
      (∀ motion, ∃ n, Buffer.move? t (.collapsed caret) motion = some n ∧ IsBoundary t n) ∧
      (∀ next, (grid t)[row + 1]? = some next → column ≤ next.length →
        ∃ n, Buffer.move? t (.collapsed caret) .down = some n ∧
          Buffer.move? t (.collapsed n) .up = some caret) := by
  obtain ⟨p, rfl, rfl, hcolumn⟩ := exists_place hcaret
  have h := p.standsAt hcolumn
  refine ⟨_, _, _, h, fun row' line' column' h' => h.unique h', h.move?_down_of_last,
    fun next => h.move?_down, h.move?_up_of_first, fun r target => h.move?_up, h.move?_home,
    h.move?_toEnd, ?bounds, ?back⟩
  case bounds =>
    intro motion
    rw [Buffer.move?_eq]
    exact move?_isBoundary (Selection.collapsed_fits_iff.2 hcaret) motion
  case back =>
    intro next hnext hle
    have hdown := h.move?_down hnext
    rw [Nat.min_eq_left hle] at hdown
    have hback := (StandsAt.mk hnext hle rfl).move?_up rfl h.line_eq
    rw [Nat.min_eq_left hcolumn, ← h.caret_eq] at hback
    exact ⟨_, hdown, hback⟩

/-- From behind two characters, the first of them of two bytes, Down goes to the end of a line of
one. -/
theorem caret_moves_on_grid_to_shorter_line :
    IsBoundary "éa\nb\n".toList 3 ∧ StandsAt "éa\nb\n".toList 3 0 "éa".toList 2 ∧
      Buffer.move? "éa\nb\n".toList (.collapsed 3) .down = some 5 := by
  have hcaret : IsBoundary "éa\nb\n".toList 3 := ⟨"éa".toList, "\nb\n".toList, rfl, rfl⟩
  have hstands : StandsAt "éa\nb\n".toList 3 0 "éa".toList 2 := ⟨rfl, by decide, rfl⟩
  obtain ⟨row, line, column, -, hunique, -, hdown, -⟩ := caret_moves_on_grid hcaret
  obtain ⟨rfl, rfl⟩ := hunique 0 "éa".toList 2 hstands
  exact ⟨hcaret, hstands, hdown "b".toList rfl⟩

end MarkupPad.Caret
