import MarkupPad.Text.Basic

/-!
# Taking beginnings and endings off

    dropFront? front t = some rest ↔ t = front ++ rest      (dropFront?_eq_some_iff)
    dropEnd? tail t = some rest ↔ t = rest ++ tail          (dropEnd?_eq_some_iff)
-/

namespace MarkupPad.Text

/-! ## Algorithm -/

/-- What follows a beginning of a text. -/
def dropFront? : Text → Text → Option Text
  | [], t => some t
  | _ :: _, [] => none
  | f :: front, c :: t => if f = c then dropFront? front t else none

/-- What stands before an ending of a text. -/
def dropEnd? (tail t : Text) : Option Text :=
  (dropFront? tail.reverse t.reverse).map List.reverse

/-- The text before the last mark and the text after it. -/
def splitLast? (mark : Char) (t : Text) : Option (Text × Text) :=
  match t.splitTrailing (· != mark) with
  | ([], _) => none
  | (head, rest) => some (head.dropLast, rest)

/-! ## Lemmas -/

theorem dropFront?_eq_some_iff {front t rest : Text} :
    dropFront? front t = some rest ↔ t = front ++ rest := by
  fun_induction dropFront? front t with
  | case1 t => simp
  | case2 f front => simp
  | case3 c front t ih => simp [ih]
  | case4 f front c t h => simp [Ne.symm h]

theorem dropEnd?_eq_some_iff {tail t rest : Text} :
    dropEnd? tail t = some rest ↔ t = rest ++ tail := by
  simp only [dropEnd?, Option.map_eq_some_iff, dropFront?_eq_some_iff]
  constructor
  · rintro ⟨r, h, rfl⟩
    have := congrArg List.reverse h
    simpa using this
  · rintro rfl
    exact ⟨rest.reverse, by simp, by simp⟩

end MarkupPad.Text
