import MarkupPad.Proofs.Buffer.Line
import MarkupPad.Proofs.Text.Boundary
import MarkupPad.Proofs.Text.Split

/-!
# The grid of lines around a caret

A text is cut at its newlines into the lines of a grid.  A place in the grid has lines above it and
below it, and some characters of its own line to its left.  Wherever a text can be cut, there is
just one place, and the text before it and the text after it can be read off the grid.

    grid p.text = p.above ++ p.line :: p.below                                      (grid_text)
    size p.before = offsetAt (grid p.text) p.above.length p.column                (size_before)
    lineBefore p.before = (textAbove p.above, p.line.take p.column)         (lineBefore_before)
    IsBoundary t caret →
      ∃ p, p.text = t ∧ size p.before = caret ∧ p.column ≤ p.line.length         (exists_place)
    StandsAt t caret row line column → StandsAt t caret row' line' column' →
      row' = row ∧ column' = column                                           (StandsAt.unique)
-/

namespace MarkupPad.Caret

open Text

/-- The lines of a text, one below the other. -/
def grid (t : Text) : List Text := t.splitBy (· = '\n')

/-- The text of the lines above another one, each with its newline behind it. -/
def textAbove (above : List Text) : Text := above.flatMap (· ++ ['\n'])

/-- The text of the lines below another one, each with its newline before it. -/
def textBelow (below : List Text) : Text := below.flatMap ('\n' :: ·)

/-- The offset so many characters into a line of a grid: behind the lines above, each with its
newline. -/
def offsetAt (lines : List Text) (row column : Nat) : Nat :=
  size (textAbove (lines.take row)) + size ((lines.getD row []).take column)

/-- A caret stands on a line of a text, so many characters into it. -/
structure StandsAt (t : Text) (caret row : Nat) (line : Text) (column : Nat) : Prop where
  line_eq : (grid t)[row]? = some line
  column_le : column ≤ line.length
  caret_eq : caret = offsetAt (grid t) row column

/-! ## Texts and their lines -/

@[simp] theorem textAbove_nil : textAbove [] = [] := rfl

@[simp] theorem textAbove_concat (above : List Text) (line : Text) :
    textAbove (above ++ [line]) = textAbove above ++ line ++ ['\n'] := by
  simp [textAbove]

@[simp] theorem textAbove_cons (line : Text) (above : List Text) :
    textAbove (line :: above) = line ++ '\n' :: textAbove above := by
  simp [textAbove]

@[simp] theorem textBelow_nil : textBelow [] = [] := rfl

@[simp] theorem textBelow_cons (line : Text) (below : List Text) :
    textBelow (line :: below) = '\n' :: (line ++ textBelow below) := rfl

theorem join_grid (t : Text) : join ['\n'] (grid t) = t := by
  have hsplit : grid t = t.splitOn '\n' := by
    rw [grid, splitBy_eq_splitOnP]
    rfl
  rw [hsplit]
  exact List.intercalate_splitOn '\n'

theorem grid_ne_nil (t : Text) : grid t ≠ [] := by
  rw [grid, splitBy_eq_splitOnP]
  exact List.splitOnP_ne_nil _ t

theorem not_mem_of_mem_grid {t line : Text} (h : line ∈ grid t) : '\n' ∉ line := by
  intro hmem
  have := not_of_mem_splitBy h hmem
  simp at this

theorem grid_join {lines : List Text} (hne : lines ≠ []) (h : ∀ line ∈ lines, '\n' ∉ line) :
    grid (join ['\n'] lines) = lines :=
  splitBy_join_eq_iff.2 ⟨hne, h⟩

/-- Below the first line each line comes behind its newline. -/
theorem join_cons_eq (line : Text) (below : List Text) :
    join ['\n'] (line :: below) = line ++ textBelow below := by
  induction below generalizing line with
  | nil => simp
  | cons next below ih => simp [ih]

/-- Above the last line each line has its newline behind it. -/
theorem join_append_cons (above : List Text) (line : Text) (below : List Text) :
    join ['\n'] (above ++ line :: below) = textAbove above ++ (line ++ textBelow below) := by
  induction above with
  | nil => exact join_cons_eq line below
  | cons first above ih =>
    obtain ⟨second, rest, hrest⟩ : ∃ second rest, above ++ line :: below = second :: rest := by
      cases above with
      | nil => exact ⟨_, _, rfl⟩
      | cons second above => exact ⟨_, _, rfl⟩
    rw [List.cons_append, hrest, join_cons_cons, ← hrest, ih]
    simp

/-! ## Offsets -/

theorem offsetAt_append (above : List Text) (line : Text) (below : List Text) (column : Nat) :
    offsetAt (above ++ line :: below) above.length column =
      size (textAbove above) + size (line.take column) := by
  rw [offsetAt, List.take_left, List.getD_eq_getElem?_getD,
    List.getElem?_append_right (Nat.le_refl _), Nat.sub_self]
  rfl

/-- Past the end of a line there are no more characters of it. -/
theorem offsetAt_min {lines : List Text} {row : Nat} {line : Text} (h : lines[row]? = some line)
    (column : Nat) : offsetAt lines row (min column line.length) = offsetAt lines row column := by
  rw [offsetAt, offsetAt, List.getD_eq_getElem?_getD, h, Option.getD_some, ← List.take_eq_take_min]

/-! ## Places -/

/-- A place in a grid: the lines around one of them, and a number of characters into it. -/
structure Place where
  above : List Text
  line : Text
  below : List Text
  column : Nat
  /-- A newline ends a line. -/
  not_mem : ∀ row ∈ above ++ line :: below, '\n' ∉ row

namespace Place

/-- The text before a place. -/
def before (p : Place) : Text := textAbove p.above ++ p.line.take p.column

/-- The text after a place. -/
def after (p : Place) : Text := p.line.drop p.column ++ textBelow p.below

/-- The whole text. -/
def text (p : Place) : Text := p.before ++ p.after

variable (p : Place)

theorem text_eq : p.text = join ['\n'] (p.above ++ p.line :: p.below) := by
  rw [join_append_cons, text, before, after, List.append_assoc, ← List.append_assoc (p.line.take _),
    List.take_append_drop]

theorem grid_text : grid p.text = p.above ++ p.line :: p.below := by
  rw [text_eq, grid_join (by simp) p.not_mem]

theorem getElem?_grid : (grid p.text)[p.above.length]? = some p.line := by
  simp [grid_text]

theorem size_before : size p.before = offsetAt (grid p.text) p.above.length p.column := by
  rw [grid_text, offsetAt_append, before, size_append]

theorem size_line : size (p.line.take p.column) + size (p.line.drop p.column) = size p.line := by
  rw [← size_append, List.take_append_drop]

theorem not_mem_line : '\n' ∉ p.line := p.not_mem _ (by simp)

theorem ne_of_mem_line {c : Char} (h : c ∈ p.line) : (c != '\n') = true := by
  rw [bne_iff_ne]
  rintro rfl
  exact p.not_mem_line h

/-- The line reaches back to the newline above it. -/
theorem lineBefore_before :
    lineBefore p.before = (textAbove p.above, p.line.take p.column) := by
  refine splitTrailing_append_of_all _ ?_ fun c hc => p.ne_of_mem_line (List.mem_of_mem_take hc)
  intro c hc
  rcases List.eq_nil_or_concat p.above with hnil | ⟨upper, target, habove⟩
  · rw [hnil] at hc
    cases hc
  · rw [habove, List.concat_eq_append, textAbove_concat, List.getLast?_concat] at hc
    cases hc
    rfl

theorem takeWhile_after : p.after.takeWhile (· != '\n') = p.line.drop p.column := by
  rw [after, List.takeWhile_append_of_pos fun c hc => p.ne_of_mem_line (List.mem_of_mem_drop hc)]
  cases p.below with
  | nil => simp
  | cons next below => simp

theorem dropWhile_after :
    p.after.dropWhile (· != '\n') = textBelow p.below := by
  rw [after, List.dropWhile_append_of_pos fun c hc => p.ne_of_mem_line (List.mem_of_mem_drop hc)]
  cases p.below with
  | nil => rfl
  | cons next below => simp

/-- There is a newline before a place for each line above it. -/
theorem count_before : p.before.count '\n' = p.above.length := by
  have habove (upper : List Text) (h : ∀ row ∈ upper, '\n' ∉ row) :
      (textAbove upper).count '\n' = upper.length := by
    induction upper with
    | nil => rfl
    | cons row upper ih =>
      rw [List.forall_mem_cons] at h
      rw [textAbove_cons, List.count_append, List.count_cons_self, List.count_eq_zero.2 h.1, ih h.2,
        List.length_cons, Nat.zero_add]
  have hleft : (p.line.take p.column).count '\n' = 0 :=
    List.count_eq_zero.2 fun h => p.not_mem_line (List.mem_of_mem_take h)
  rw [before, List.count_append, hleft, habove p.above fun row h => p.not_mem row (by simp [h])]
  rfl

end Place

/-- **Wherever a text can be cut there is a place in its grid.** -/
theorem exists_place {t : Text} {caret : Nat} (h : IsBoundary t caret) :
    ∃ p : Place, p.text = t ∧ size p.before = caret ∧ p.column ≤ p.line.length := by
  obtain ⟨a, b, rfl, rfl⟩ := h
  -- the line of the caret begins as the last line before it and ends as the first one after it
  obtain ⟨above, left, ha⟩ : ∃ above left, grid a = above ++ [left] := by
    rcases List.eq_nil_or_concat (grid a) with hnil | ⟨above, left, ha⟩
    · exact absurd hnil (grid_ne_nil a)
    · exact ⟨above, left, ha.trans List.concat_eq_append⟩
  obtain ⟨right, below, hb⟩ := List.exists_cons_of_ne_nil (grid_ne_nil b)
  have hbefore := join_grid a
  have hafter := join_grid b
  rw [ha, join_append_cons, textBelow_nil, List.append_nil] at hbefore
  rw [hb, join_cons_eq] at hafter
  refine ⟨⟨above, left ++ right, below, left.length, ?_⟩, ?_, ?_, ?_⟩
  · intro row hrow
    have hleft : ∀ line ∈ above ++ [left], '\n' ∉ line := fun line h => not_mem_of_mem_grid (ha ▸ h)
    have hright : ∀ line ∈ right :: below, '\n' ∉ line := fun line h => not_mem_of_mem_grid (hb ▸ h)
    rcases List.mem_append.1 hrow with hrow | hrow
    · exact hleft row (List.mem_append_left _ hrow)
    · rcases List.mem_cons.1 hrow with rfl | hrow
      · rw [List.mem_append, not_or]
        exact ⟨hleft left (by simp), hright right (by simp)⟩
      · exact hright row (List.mem_cons_of_mem _ hrow)
  · simp [Place.text, Place.before, Place.after, ← hbefore, ← hafter]
  · simp [Place.before, ← hbefore]
  · simp

/-! ## Where a caret stands -/

variable {t line : Text} {caret row column : Nat}

theorem Place.standsAt (p : Place) (h : p.column ≤ p.line.length) :
    StandsAt p.text (size p.before) p.above.length p.line p.column :=
  ⟨p.getElem?_grid, h, p.size_before⟩

theorem StandsAt.exists_place (h : StandsAt t caret row line column) :
    ∃ p : Place, p.text = t ∧ size p.before = caret ∧ p.above.length = row ∧ p.line = line ∧
      p.column = column := by
  obtain ⟨hlt, hline⟩ := List.getElem?_eq_some_iff.1 h.line_eq
  have hcut : (grid t).take row ++ line :: (grid t).drop (row + 1) = grid t := by
    rw [← hline, ← List.drop_eq_getElem_cons hlt, List.take_append_drop]
  have hlen : ((grid t).take row).length = row := by
    rw [List.length_take]
    omega
  have hmem : ∀ row' ∈ (grid t).take row ++ line :: (grid t).drop (row + 1), '\n' ∉ row' := by
    rw [hcut]
    exact fun row' => not_mem_of_mem_grid
  let p : Place := ⟨(grid t).take row, line, (grid t).drop (row + 1), column, hmem⟩
  have htext : p.text = t := by
    rw [Place.text_eq]
    exact (congrArg (join ['\n']) hcut).trans (join_grid t)
  refine ⟨p, htext, ?_, hlen, rfl, rfl⟩
  rw [Place.size_before, htext, h.caret_eq]
  exact congrArg (offsetAt (grid t) · column) hlen

/-- In bytes, a caret stands so far behind the beginning of its line. -/
theorem StandsAt.caret_eq_add (h : StandsAt t caret row line column) :
    caret = offsetAt (grid t) row 0 + size (line.take column) := by
  rw [h.caret_eq, offsetAt, offsetAt, List.getD_eq_getElem?_getD, h.line_eq]
  rfl

/-- A caret stands at one place only. -/
theorem StandsAt.unique {row' column' : Nat} {line' : Text} (h : StandsAt t caret row line column)
    (h' : StandsAt t caret row' line' column') : row' = row ∧ column' = column := by
  have hcolumn := h.column_le
  have hcolumn' := h'.column_le
  obtain ⟨p, hp, hsize, rfl, rfl, rfl⟩ := h.exists_place
  obtain ⟨q, hq, hsize', rfl, rfl, rfl⟩ := h'.exists_place
  have hbefore : q.before = p.before :=
    (append_inj_of_size (hq.trans hp.symm) (hsize'.trans hsize.symm)).1
  constructor
  · rw [← p.count_before, ← q.count_before, hbefore]
  · have hline := congrArg (fun b => (lineBefore b).2.length) hbefore
    simp only [Place.lineBefore_before, List.length_take] at hline
    omega

end MarkupPad.Caret
