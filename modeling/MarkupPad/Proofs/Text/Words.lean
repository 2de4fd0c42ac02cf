import MarkupPad.Proofs.Text.Split
import MarkupPad.Text.Blank

/-!
# Words

Words are the pieces of a text between blanks, without the empty ones.  So a blank splits the
words of a text, and words with blanks between them are read back as they were written.

    words (a ++ c :: b) = words a ++ words b      where isBlank c           (words_append_cons)
    words (join [' '] ws) = ws                    where all of ws are words        (words_join)
-/

namespace MarkupPad.Text

/-- A text that is a word on its own. -/
def IsWord (w : Text) : Prop := w ≠ [] ∧ ∀ c ∈ w, isBlank c = false

/-- The characters of a word are characters of the text. -/
theorem mem_of_mem_words {t w : Text} {c : Char} (h : w ∈ words t) (hc : c ∈ w) : c ∈ t :=
  mem_of_mem_splitBy (List.mem_filter.1 h).1 hc

/-- **Words are split at every blank.** -/
theorem words_append_cons {c : Char} (hc : isBlank c) (a b : Text) :
    words (a ++ c :: b) = words a ++ words b := by
  unfold words
  rw [splitBy_append_cons hc, List.filter_append]

/-- A blank at the front belongs to no word. -/
theorem words_cons {c : Char} (hc : isBlank c) (t : Text) : words (c :: t) = words t :=
  words_append_cons hc [] t

theorem words_of_isWord {w : Text} (h : IsWord w) : words w = [w] := by
  rw [words, splitBy_of_not h.2]
  simp [h.1]

/-- **Words with blanks between them are those words.** -/
theorem words_join {ws : List Text} (h : ∀ w ∈ ws, IsWord w) : words (join [' '] ws) = ws := by
  induction ws with
  | nil => rfl
  | cons w ws ih =>
    have hw := words_of_isWord (h w List.mem_cons_self)
    cases ws with
    | nil => rw [join_singleton, hw]
    | cons v ws =>
      have hrest := ih fun u hu => h u (List.mem_cons_of_mem w hu)
      rw [join_cons_cons, List.append_assoc, List.singleton_append,
        words_append_cons (by decide), hw, hrest, List.singleton_append]

end MarkupPad.Text
