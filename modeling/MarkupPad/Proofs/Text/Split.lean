import MarkupPad.Text.Basic

/-!
# Splitting and joining

A text falls into pieces at a mark, and the pieces with the mark between them are the text.
Pieces come back unchanged just when none of them holds the mark.

    splitBy (· = d) (join [d] pieces) = pieces ↔ pieces ≠ [] ∧ ∀ t ∈ pieces, d ∉ t
                                                              (splitBy_join_eq_iff)
-/

namespace MarkupPad

namespace Text

/-! ## Joining -/

@[simp] theorem join_singleton (sep t : Text) : join sep [t] = t := List.intercalate_singleton

@[simp] theorem join_cons_cons (sep t u : Text) (pieces : List Text) :
    join sep (t :: u :: pieces) = t ++ sep ++ join sep (u :: pieces) :=
  List.intercalate_cons_cons

/-- The separator stands between the pieces of two lists, too. -/
theorem join_append {a b : List Text} (sep : Text) (ha : a ≠ []) (hb : b ≠ []) :
    join sep (a ++ b) = join sep a ++ sep ++ join sep b := by
  have hcons (t : Text) {pieces : List Text} (h : pieces ≠ []) :
      join sep (t :: pieces) = t ++ sep ++ join sep pieces := List.intercalate_cons_of_ne_nil h
  induction a with
  | nil => exact absurd rfl ha
  | cons t a ih =>
    by_cases hnil : a = []
    · rw [hnil, List.singleton_append, hcons t hb, join_singleton]
    · have happend : a ++ b ≠ [] := List.append_ne_nil_of_left_ne_nil hnil b
      rw [List.cons_append, hcons t happend, ih hnil, hcons t hnil]
      simp only [List.append_assoc]

theorem mem_join {sep : Text} {pieces : List Text} {c : Char} (h : c ∈ join sep pieces) :
    c ∈ sep ∨ ∃ t ∈ pieces, c ∈ t := by
  induction pieces with
  | nil => cases h
  | cons t pieces ih =>
    cases pieces with
    | nil => exact Or.inr ⟨t, by simp, by simpa using h⟩
    | cons u pieces =>
      rw [join_cons_cons, List.mem_append, List.mem_append] at h
      rcases h with (h | h) | h
      · exact Or.inr ⟨t, by simp, h⟩
      · exact Or.inl h
      · rcases ih h with hsep | ⟨v, hv, hc⟩
        · exact Or.inl hsep
        · exact Or.inr ⟨v, List.mem_cons_of_mem t hv, hc⟩

theorem mem_join_of_mem {sep : Text} {pieces : List Text} {t : Text} {c : Char}
    (ht : t ∈ pieces) (hc : c ∈ t) : c ∈ join sep pieces := by
  induction pieces with
  | nil => cases ht
  | cons u pieces ih =>
    cases pieces with
    | nil =>
      rw [List.mem_singleton.1 ht] at hc
      rwa [join_singleton]
    | cons v pieces =>
      rw [join_cons_cons, List.mem_append, List.mem_append]
      rcases List.mem_cons.1 ht with rfl | ht
      · exact Or.inl (Or.inl hc)
      · exact Or.inr (ih ht)

/-! ## Splitting -/

theorem splitBy_eq_splitOnP (p : Char → Bool) (t : Text) : splitBy p t = t.splitOnP p := by
  induction t with
  | nil => rfl
  | cons c t ih =>
    rw [List.splitOnP_cons_eq_if_modifyHead, ← ih, splitBy]
    split
    · rfl
    · cases hsplit : splitBy p t with
      | nil => exact absurd (ih.symm.trans hsplit) (List.splitOnP_ne_nil p t)
      | cons piece rest => rfl

/-- No piece holds a character that the text is split at. -/
theorem not_of_mem_splitBy {p : Char → Bool} {t piece : Text} {c : Char}
    (h : piece ∈ splitBy p t) (hc : c ∈ piece) : p c = false := by
  fun_induction splitBy p t generalizing piece with
  | case1 =>
    rw [List.mem_singleton.1 h] at hc
    cases hc
  | case2 d t hd ih =>
    rcases List.mem_cons.1 h with rfl | h
    · cases hc
    · exact ih h hc
  | case3 d t hd hsplit ih =>
    rw [List.mem_singleton.1 h, List.mem_singleton] at hc
    rw [hc]
    simpa using hd
  | case4 d t hd first rest hsplit ih =>
    rw [hsplit] at ih
    rcases List.mem_cons.1 h with rfl | h
    · rcases List.mem_cons.1 hc with rfl | hc
      · simpa using hd
      · exact ih List.mem_cons_self hc
    · exact ih (List.mem_cons_of_mem first h) hc

/-- The characters of a piece are characters of the text. -/
theorem mem_of_mem_splitBy {p : Char → Bool} {t piece : Text} {c : Char}
    (h : piece ∈ splitBy p t) (hc : c ∈ piece) : c ∈ t := by
  fun_induction splitBy p t generalizing piece with
  | case1 => rwa [List.mem_singleton.1 h] at hc
  | case2 d t hd ih =>
    rcases List.mem_cons.1 h with rfl | h
    · cases hc
    · exact List.mem_cons_of_mem d (ih h hc)
  | case3 d t hd hsplit ih =>
    rw [List.mem_singleton.1 h, List.mem_singleton] at hc
    rw [hc]
    exact List.mem_cons_self
  | case4 d t hd first rest hsplit ih =>
    rw [hsplit] at ih
    rcases List.mem_cons.1 h with rfl | h
    · rcases List.mem_cons.1 hc with rfl | hc
      · exact List.mem_cons_self
      · exact List.mem_cons_of_mem d (ih List.mem_cons_self hc)
    · exact List.mem_cons_of_mem d (ih (List.mem_cons_of_mem first h) hc)

/-- A character of the class falls between two pieces. -/
theorem splitBy_append_cons {p : Char → Bool} {c : Char} (hc : p c) (a b : Text) :
    splitBy p (a ++ c :: b) = splitBy p a ++ splitBy p b := by
  simp only [splitBy_eq_splitOnP]
  exact List.splitOnP_append_cons a b hc

/-- There is one piece more than there are characters of the class. -/
theorem length_splitBy (p : Char → Bool) (t : Text) :
    (splitBy p t).length = t.countP p + 1 := by
  fun_induction splitBy p t with
  | case1 => rfl
  | case2 c t hc ih => rw [List.length_cons, ih, List.countP_cons_of_pos hc]
  | case3 c t hc hsplit ih =>
    rw [hsplit] at ih
    cases ih
  | case4 c t hc first rest hsplit ih =>
    rw [hsplit] at ih
    rw [List.countP_cons_of_neg hc, ← ih]
    rfl

/-- A text without characters of the class is the only piece. -/
theorem splitBy_of_not {p : Char → Bool} {t : Text} (h : ∀ c ∈ t, p c = false) :
    splitBy p t = [t] := by
  rw [splitBy_eq_splitOnP]
  exact List.splitOnP_eq_singleton h

/-- **Joined pieces fall apart again just when none of them holds the mark.** -/
theorem splitBy_join_eq_iff {d : Char} {pieces : List Text} :
    splitBy (· = d) (join [d] pieces) = pieces ↔ pieces ≠ [] ∧ ∀ t ∈ pieces, d ∉ t := by
  constructor
  · intro h
    refine ⟨fun hnil => ?_, fun t ht hd => ?_⟩
    · rw [splitBy_eq_splitOnP, hnil] at h
      exact List.splitOnP_ne_nil _ _ h
    · rw [← h] at ht
      simpa using not_of_mem_splitBy ht hd
  · rintro ⟨hne, h⟩
    rw [splitBy_eq_splitOnP]
    exact List.splitOn_intercalate d h hne

end Text

end MarkupPad
