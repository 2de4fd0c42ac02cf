import MarkupPad.Buffer.Line
import MarkupPad.Proofs.Buffer.Run

/-!
# Motions and edits of a buffer are those of its text

Lines and characters around an offset are found as on the two parts that the offset cuts
the text into.  The motions and the edits agree with those on characters everywhere, so
they fail just where the selection does not stand at boundaries.

    move? t s motion = Caret.move? t s motion                       (move?_eq)
    backspace? t s = Edit.backspace? t s                            (backspace?_eq)
    delete? t s = Edit.delete? t s                                  (delete?_eq)
    duplicate? t s = Edit.duplicate? t s                            (duplicate?_eq)
-/

namespace MarkupPad.Buffer

open Text

/-! ## Characters and lines around a cut -/

section
variable (a b : Text)

theorem prevBoundary?_append : prevBoundary? (a ++ b) (size a) = some (size a.dropLast) := by
  rw [prevBoundary?, before?_append]
  rcases List.eq_nil_or_concat a with rfl | ⟨h, c, rfl⟩
  · rfl
  · simp [minus?]

theorem nextBoundary?_append :
    nextBoundary? (a ++ b) (size a) = some (size a + size (b.take 1)) := by
  rw [nextBoundary?, after?_append]
  cases b with
  | nil => rfl
  | cons c b => simp

theorem lineStart?_append :
    lineStart? (a ++ b) (size a) = some (size (Caret.lineBefore a).1) := by
  rw [lineStart?, before?_append, Caret.lineBefore, ← afterLast_eq (by decide)]
  rfl

theorem lineEnd?_append :
    lineEnd? (a ++ b) (size a) = some (size a + size (b.takeWhile (· != '\n'))) := by
  rw [lineEnd?, after?_append]
  simp only [Option.bind_eq_bind, Option.bind_some, find?_eq]
  by_cases h : b.dropWhile (· != '\n') = []
  · have hb := List.takeWhile_append_dropWhile (p := (· != '\n')) (l := b)
    rw [h, List.append_nil] at hb
    simp [h, hb]
  · simp [h]

theorem atColumn?_append (column : Nat) :
    atColumn? (a ++ b) (size a) column =
      some (size a + size ((b.takeWhile (· != '\n')).take column)) := by
  have hb := List.takeWhile_append_dropWhile (p := (· != '\n')) (l := b)
  have hslice : (a ++ b).slice? (size a) (size a + size (b.takeWhile (· != '\n'))) =
      some (b.takeWhile (· != '\n')) := by
    have := slice?_append a (b.takeWhile (· != '\n')) (b.dropWhile (· != '\n'))
    rwa [List.append_assoc, hb, size_append] at this
  rw [atColumn?, lineEnd?_append]
  simp only [Option.bind_eq_bind, Option.bind_some, hslice]
  by_cases h : column < (b.takeWhile (· != '\n')).length
  · rw [if_pos h]
    rfl
  · rw [if_neg h, List.take_of_length_le (by omega)]
    rfl

/-- The line above begins where the newline before the line leaves off. -/
theorem up?_append : up? (a ++ b) (size a) = some (Caret.up a) := by
  have ha := splitTrailing_append (· != '\n') a
  have hall := all_splitTrailing (· != '\n') a
  have hlast := fun c => getLast?_splitTrailing (· != '\n') (t := a) (c := c)
  rw [up?, lineStart?_append, Caret.up, Caret.lineBefore]
  simp only [Option.bind_eq_bind, Option.bind_some]
  generalize (splitTrailing (· != '\n') a).1 = above at *
  generalize (splitTrailing (· != '\n') a).2 = line at *
  rcases List.eq_nil_or_concat above with rfl | ⟨above', c, rfl⟩
  · rfl
  · rw [List.concat_eq_append] at *
    have hc : c = '\n' := by simpa using hlast c (by simp)
    subst hc
    have hslice : (a ++ b).slice? (size (above' ++ ['\n'])) (size a) = some line := by
      rw [← ha]
      exact slice?_append _ _ _
    have hne : ¬ size (above' ++ ['\n']) = 0 := by simp
    have hpred : minus? (size (above' ++ ['\n'])) 1 = some (size above') := by simp [minus?]
    have ht : a ++ b = above' ++ ('\n' :: (line ++ b)) := by
      rw [← ha]
      simp
    simp only [if_neg hne, hslice, hpred, Option.bind_some]
    rw [ht, lineStart?_append]
    have habove := splitTrailing_append (· != '\n') above'
    have hline : ((splitTrailing (· != '\n') above').2 ++ '\n' :: (line ++ b)).takeWhile
        (· != '\n') = (splitTrailing (· != '\n') above').2 := by
      rw [List.takeWhile_append_of_pos (all_splitTrailing _ _)]
      simp
    have hcol := atColumn?_append (splitTrailing (· != '\n') above').1
      ((splitTrailing (· != '\n') above').2 ++ '\n' :: (line ++ b)) line.length
    rw [← List.append_assoc, habove, hline] at hcol
    simp only [Option.bind_some, Caret.lineBefore, hcol]
    simp

/-- The line below begins after the newline that ends the line. -/
theorem down?_append : down? (a ++ b) (size a) = some (Caret.down a b) := by
  have ha := splitTrailing_append (· != '\n') a
  have hb := List.takeWhile_append_dropWhile (p := (· != '\n')) (l := b)
  have hhead := List.head?_dropWhile_not (· != '\n') b
  have hslice : (a ++ b).slice? (size (splitTrailing (· != '\n') a).1) (size a) =
      some (splitTrailing (· != '\n') a).2 := by
    have := slice?_append (splitTrailing (· != '\n') a).1 (splitTrailing (· != '\n') a).2 b
    rwa [ha] at this
  rw [down?, lineEnd?_append, lineStart?_append, Caret.down, Caret.lineBefore]
  simp only [Option.bind_eq_bind, Option.bind_some]
  generalize b.takeWhile (· != '\n') = rest at *
  cases hd : b.dropWhile (· != '\n') with
  | nil =>
    rw [hd, List.append_nil] at hb
    rw [if_pos (by rw [size_append, hb]), size_append, hb]
    rfl
  | cons c below =>
    rw [hd] at hb hhead
    have hc : c = '\n' := by simpa using hhead
    subst hc
    have hne : ¬ size a + size rest = size (a ++ b) := by
      rw [← hb]
      simp
    have hcol := atColumn?_append (a ++ rest ++ ['\n']) below
      (splitTrailing (· != '\n') a).2.length
    have ht : a ++ rest ++ ['\n'] ++ below = a ++ b := by
      rw [← hb]
      simp
    have hs : size (a ++ rest ++ ['\n']) = size a + size rest + 1 := by
      rw [size_append, size_append]
      rfl
    rw [ht, hs] at hcol
    rw [if_neg hne]
    simp only [hslice, Option.bind_some, hcol]

end

theorem column?_eq (t : Text) : column? t = some (Caret.column t) := by
  have hstart := lineStart?_append t []
  have hrest : t.after? (size (Caret.lineBefore t).1) = some (Caret.lineBefore t).2 :=
    after?_eq_some_iff.2 ⟨_, (splitTrailing_append _ t).symm, rfl⟩
  rw [List.append_nil] at hstart
  rw [column?, hstart]
  simp only [Option.bind_eq_bind, Option.bind_some, hrest]
  rfl

/-! ## Motions -/

/-- Where the text cannot be cut, there is nowhere to go from. -/
theorem splitAt?_cases (t : Text) (n : Nat) :
    (∃ a b, t = a ++ b ∧ n = size a) ∨
      (t.splitAt? n = none ∧ t.before? n = none ∧ t.after? n = none) := by
  cases h : t.splitAt? n with
  | none => exact Or.inr ⟨rfl, by rw [before?, h]; rfl, by rw [after?, h]; rfl⟩
  | some parts =>
    obtain ⟨ht, hs⟩ := splitAt?_eq_some_iff.1 h
    exact Or.inl ⟨parts.1, parts.2, ht, hs.symm⟩

/-- **The caret moves by offsets as on the grid of lines.** -/
theorem move?_eq (t : Text) (s : Selection) (motion : Motion) :
    move? t s motion = Caret.move? t s motion := by
  obtain ⟨start, stop⟩ := s
  rcases splitAt?_cases t stop with ⟨a, b, rfl, rfl⟩ | ⟨hsplit, hbefore, hafter⟩
  · cases motion with
    | left =>
      by_cases hc : Selection.isCollapsed ⟨start, size a⟩
      · simp [move?, Caret.move?, hc, prevBoundary?_append, Caret.step]
      · simp [move?, Caret.move?, hc]
    | right =>
      by_cases hc : Selection.isCollapsed ⟨start, size a⟩
      · simp [move?, Caret.move?, hc, nextBoundary?_append, Caret.step]
      · simp [move?, Caret.move?, hc]
    | home => simp [move?, Caret.move?, lineStart?_append, Caret.step]
    | toEnd => simp [move?, Caret.move?, lineEnd?_append, Caret.step]
    | up => simp [move?, Caret.move?, up?_append, Caret.step]
    | down => simp [move?, Caret.move?, down?_append, Caret.step]
  · cases motion with
    | left =>
      by_cases hc : Selection.isCollapsed ⟨start, stop⟩
      · simp [move?, Caret.move?, hc, prevBoundary?, hsplit, hbefore]
      · simp [move?, Caret.move?, hc]
    | right =>
      by_cases hc : Selection.isCollapsed ⟨start, stop⟩
      · simp [move?, Caret.move?, hc, nextBoundary?, hsplit, hafter]
      · simp [move?, Caret.move?, hc]
    | home => simp [move?, Caret.move?, lineStart?, hsplit, hbefore]
    | toEnd => simp [move?, Caret.move?, lineEnd?, hsplit, hafter]
    | up => simp [move?, Caret.move?, up?, lineStart?, hsplit, hbefore]
    | down => simp [move?, Caret.move?, down?, lineEnd?, hsplit, hafter]

/-! ## Edits -/

theorem bind_some_some {α : Type} (x : Option α) :
    (x.bind fun edit => some (some edit)) = some <$> x := by
  cases x
  · rfl
  · rfl

theorem backspace?_eq (t : Text) (s : Selection) : backspace? t s = Edit.backspace? t s := by
  rw [backspace?, Edit.backspace?]
  cases hc : s.isCollapsed with
  | false =>
    simp only [Option.bind_eq_bind, Option.pure_def, bind_some_some]
    rfl
  | true =>
    by_cases h0 : s.start = 0
    · simp [h0]
    · rcases splitAt?_cases t s.start with ⟨a, b, rfl, ha⟩ | ⟨-, hbefore, -⟩
      · rcases List.eq_nil_or_concat a with rfl | ⟨h, c, rfl⟩
        · exact absurd ha h0
        · have hwidth : size (h.concat c) - c.utf8Size = size h := by simp
          simp only [ha]
          simp only [if_true, if_false, Bool.not_true, Bool.false_eq_true, prevBoundary?_append,
            before?_append, Option.bind_eq_bind, Option.bind_some, Option.pure_def, bind_some_some,
            List.concat_eq_append, List.dropLast_concat, List.getLast?_concat, Option.map_some,
            Option.getD_some]
          rw [List.concat_eq_append] at hwidth
          rw [hwidth]
      · simp [h0, prevBoundary?, hbefore]

theorem delete?_eq (t : Text) (s : Selection) : delete? t s = Edit.delete? t s := by
  rw [delete?, Edit.delete?]
  cases hc : s.isCollapsed with
  | false =>
    simp only [Option.bind_eq_bind, Option.pure_def, bind_some_some]
    rfl
  | true =>
    by_cases hend : size t ≤ s.stop
    · simp [hend]
    · rcases splitAt?_cases t s.stop with ⟨a, b, rfl, ha⟩ | ⟨-, -, hafter⟩
      · cases b with
        | nil => simp [ha] at hend
        | cons c b =>
          simp only [ha] at hend ⊢
          simp only [hend, if_true, if_false, Bool.not_true, Bool.false_eq_true, nextBoundary?_append,
            after?_append, Option.bind_eq_bind, Option.bind_some, Option.pure_def, bind_some_some]
          simp
      · simp [hend, nextBoundary?, hafter]

theorem duplicate?_eq (t : Text) (s : Selection) : duplicate? t s = Edit.duplicate? t s := by
  obtain ⟨start, stop⟩ := s
  rw [duplicate?, Edit.duplicate?]
  by_cases hc : Selection.isCollapsed ⟨start, stop⟩
  · rcases splitAt?_cases t start with ⟨a, b, rfl, rfl⟩ | ⟨hsplit, hbefore, -⟩
    · have ha := splitTrailing_append (· != '\n') a
      have hb := List.takeWhile_append_dropWhile (p := (· != '\n')) (l := b)
      have hstop : size a + size (b.takeWhile (· != '\n')) =
          size (a ++ b.takeWhile (· != '\n')) := by rw [size_append]
      have hcut : a ++ b = a ++ b.takeWhile (· != '\n') ++ b.dropWhile (· != '\n') := by
        rw [List.append_assoc, hb]
      have hslice : (a ++ b).slice? (size (splitTrailing (· != '\n') a).1)
          (size (a ++ b.takeWhile (· != '\n'))) =
            some ((splitTrailing (· != '\n') a).2 ++ b.takeWhile (· != '\n')) := by
        have := slice?_append (splitTrailing (· != '\n') a).1
          ((splitTrailing (· != '\n') a).2 ++ b.takeWhile (· != '\n')) (b.dropWhile (· != '\n'))
        rwa [← List.append_assoc, ha, ← hcut] at this
      have hhead : (a ++ b).before? (size (a ++ b.takeWhile (· != '\n'))) =
          some (a ++ b.takeWhile (· != '\n')) := by
        rw [hcut]
        exact before?_append _ _
      have htail : (a ++ b).after? (size (a ++ b.takeWhile (· != '\n'))) =
          some (b.dropWhile (· != '\n')) := by
        rw [hcut]
        exact after?_append _ _
      simp only [hc, if_true, lineStart?_append, lineEnd?_append, Option.bind_eq_bind, Option.bind_some,
        hstop, Caret.lineBefore, hslice, hhead, htail, splitAt?_append]
      rfl
    · simp [hc, hsplit, hbefore, lineStart?]
  · rcases splitAt?_cases t stop with ⟨a, b, rfl, rfl⟩ | ⟨hsplit, hbefore, -⟩
    · simp [hc, before?_append, after?_append]
    · simp [hc, hsplit, hbefore, slice?]

end MarkupPad.Buffer
