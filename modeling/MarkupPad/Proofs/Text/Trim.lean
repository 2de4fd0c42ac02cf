import Mathlib.Data.List.TakeWhile
import MarkupPad.Text.Blank

/-!
# Trimmed texts

Trimming takes the blanks at both ends away and nothing else.  So blanks around a text do not
count, a text that begins and ends with other characters stays as it is, and what stands before
such a character stays whole.

    trimBy p (left ++ t ++ right) = trimBy p t
      where all of left and right are in p                             (trimBy_append_append)
    trim (dropCarriageReturn t) = trim t                            (trim_dropCarriageReturn)
-/

namespace MarkupPad.Text

section
variable {p : Char → Bool}

/-- **Blanks around a text are taken away.** -/
theorem trimBy_append_append {left right : Text} (hl : ∀ c ∈ left, p c) (hr : ∀ c ∈ right, p c)
    (t : Text) : trimBy p (left ++ t ++ right) = trimBy p t := by
  have hr' : ∀ c ∈ right.reverse, p c := fun c hc => hr c (List.mem_reverse.1 hc)
  rw [trimBy, trimBy, List.append_assoc, List.dropWhile_append_of_pos hl, List.dropWhile_append]
  split
  · next h => rw [List.isEmpty_iff.1 h, List.dropWhile_eq_nil_iff.2 hr]
  · rw [List.reverse_append, List.dropWhile_append_of_pos hr']

theorem dropWhile_eq_self_of_head? {t : Text} (h : ∀ c ∈ t.head?, p c = false) :
    t.dropWhile p = t := by
  cases t with
  | nil => rfl
  | cons c t => exact List.dropWhile_cons_of_neg (by simp [h c rfl])

/-- A text without blanks at its ends stays as it is. -/
theorem trimBy_eq_self {t : Text} (hfront : ∀ c ∈ t.head?, p c = false)
    (hend : ∀ c ∈ t.getLast?, p c = false) : trimBy p t = t := by
  rw [← List.head?_reverse] at hend
  rw [trimBy, dropWhile_eq_self_of_head? hfront, dropWhile_eq_self_of_head? hend,
    List.reverse_reverse]

/-- What stands up to a character that is no blank stays, if it does not begin with one. -/
theorem exists_trimBy_append_cons {a : Text} {c : Char} (ha : ∀ d ∈ (a ++ [c]).head?, p d = false)
    (hc : p c = false) (b : Text) : ∃ b', trimBy p (a ++ c :: b) = a ++ c :: b' := by
  have hfront : ∀ d ∈ (a ++ c :: b).head?, p d = false := by
    cases a with
    | nil => exact ha
    | cons d a => exact ha
  have hback : (a ++ c :: b).reverse = b.reverse ++ (c :: a.reverse) := by simp
  rw [trimBy, dropWhile_eq_self_of_head? hfront, hback, List.dropWhile_append]
  split
  · refine ⟨[], ?_⟩
    rw [List.dropWhile_cons_of_neg (by simp [hc])]
    simp
  · exact ⟨(b.reverse.dropWhile p).reverse, by simp⟩

end

theorem trim_of_not_isBlank {t : Text} (h : ∀ c ∈ t, isBlank c = false) : trim t = t :=
  trimBy_eq_self (fun c hc => h c (List.mem_of_mem_head? hc))
    fun c hc => h c (List.mem_of_mem_getLast? hc)

/-- A carriage return at the end of a line is a blank. -/
theorem trim_dropCarriageReturn (t : Text) : trim (dropCarriageReturn t) = trim t := by
  unfold dropCarriageReturn
  split
  · next h =>
    obtain ⟨init, rfl⟩ := List.getLast?_eq_some_iff.1 h
    have hblank : ∀ c ∈ ['\r'], isBlank c := by simp [isBlank]
    have hnone : ∀ c ∈ ([] : Text), isBlank c := by simp
    rw [List.dropLast_concat]
    exact (trimBy_append_append hnone hblank init).symm
  · rfl

end MarkupPad.Text
