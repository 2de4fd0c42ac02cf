import MarkupPad.Selection

/-!
# Boundaries and the parts between them

Cutting at a boundary splits a text, so two boundaries split it in three, and a selection
that fits is the middle part.  Clamping goes down to the nearest boundaries.

    slice? (a ++ m ++ b) (size a) (size (a ++ m)) = some m                (slice?_append)
    s.Fits t ↔ ∃ a m b, t = a ++ m ++ b ∧ s = ⟨size a, size (a ++ m)⟩     (fits_iff)
    (clamp t a b).Fits t                                                  (clamp_fits)
-/

namespace MarkupPad

namespace Text

/-! ## Cutting -/

theorem before?_append (a b : Text) : before? (a ++ b) (size a) = some a :=
  before?_eq_some_iff.2 ⟨b, rfl, rfl⟩

theorem after?_append (a b : Text) : after? (a ++ b) (size a) = some b :=
  after?_eq_some_iff.2 ⟨a, rfl, rfl⟩

theorem slice?_append (a m b : Text) :
    slice? (a ++ m ++ b) (size a) (size (a ++ m)) = some m := by
  have h : size a ≤ size (a ++ m) := by
    rw [size_append]
    omega
  rw [slice?, if_pos h, before?_append, Option.bind_some, after?_append]

/-! ## Boundaries -/

theorem isBoundary_append (a b : Text) : IsBoundary (a ++ b) (size a) := ⟨a, b, rfl, rfl⟩

theorem isBoundary_zero (t : Text) : IsBoundary t 0 := ⟨[], t, rfl, rfl⟩

theorem isBoundary_size (t : Text) : IsBoundary t (size t) := ⟨t, [], by simp, rfl⟩

theorem IsBoundary.le_size {t : Text} {n : Nat} (h : IsBoundary t n) : n ≤ size t := by
  obtain ⟨a, b, rfl, rfl⟩ := h
  simp

theorem isBoundary_iff_before? {t : Text} {n : Nat} : IsBoundary t n ↔ (before? t n).isSome := by
  rw [Option.isSome_iff_exists]
  constructor
  · rintro ⟨a, b, rfl, rfl⟩
    exact ⟨a, before?_append a b⟩
  · rintro ⟨a, ha⟩
    obtain ⟨b, ht, hs⟩ := before?_eq_some_iff.1 ha
    exact ⟨a, b, ht, hs⟩

theorem isBoundary_iff {t : Text} {n : Nat} : t.isBoundary n ↔ IsBoundary t n := by
  rw [isBoundary_iff_before?, isBoundary, before?, Option.isSome_map]

instance (t : Text) (n : Nat) : Decidable (IsBoundary t n) := decidable_of_iff _ isBoundary_iff

/-- **Two boundaries cut a text in three.** -/
theorem IsBoundary.cut {t : Text} {m n : Nat} (hm : IsBoundary t m) (hn : IsBoundary t n)
    (hmn : m ≤ n) : ∃ a b c, t = a ++ b ++ c ∧ size a = m ∧ size (a ++ b) = n := by
  obtain ⟨a, r, rfl, rfl⟩ := hm
  obtain ⟨p, c, ht, rfl⟩ := hn
  rcases List.append_eq_append_iff.1 ht with ⟨b, rfl, rfl⟩ | ⟨b, rfl, rfl⟩
  · exact ⟨a, b, c, by simp, rfl, rfl⟩
  · rw [size_append] at hmn
    have hb : b = [] := size_eq_zero_iff.1 (by omega)
    subst hb
    exact ⟨p, [], r, by simp, by simp, by simp⟩

/-! ## Characters at offsets -/

/-- Every offset in a text is in one of its characters. -/
theorem exists_char_at {t : Text} {n : Nat} (h : n < size t) :
    ∃ a c r, t = a ++ c :: r ∧ size a ≤ n ∧ n < size (a ++ [c]) := by
  induction t generalizing n with
  | nil => simp at h
  | cons d t ih =>
    by_cases hn : n < d.utf8Size
    · exact ⟨[], d, t, rfl, by simp, by simpa using hn⟩
    · rw [size_cons] at h
      obtain ⟨a, c, r, rfl, hle, hlt⟩ := ih (n := n - d.utf8Size) (by omega)
      refine ⟨d :: a, c, r, rfl, ?_, ?_⟩
      · rw [size_cons]
        omega
      · rw [List.cons_append, size_cons]
        omega

/-- A text is cut at an offset in one way only. -/
theorem append_inj_of_size {a b r s : Text} (h : a ++ r = b ++ s) (hs : size a = size b) :
    a = b ∧ r = s := by
  have ha := splitAt?_append a r
  rw [h, hs, splitAt?_append] at ha
  simp only [Option.some.injEq, Prod.mk.injEq] at ha
  exact ⟨ha.1.symm, ha.2.symm⟩

theorem append_cons_inj_of_size {a b r s : Text} {c d : Char} (h : a ++ c :: r = b ++ d :: s)
    (hs : size a = size b) : c = d ∧ r = s :=
  List.cons.inj (append_inj_of_size h hs).2

/-- No boundary lies within a character. -/
theorem IsBoundary.le_or_ge {a r : Text} {c : Char} {n : Nat} (h : IsBoundary (a ++ c :: r) n) :
    n ≤ size a ∨ size (a ++ [c]) ≤ n := by
  obtain ⟨b, s, ht, rfl⟩ := h
  rcases List.append_eq_append_iff.1 ht with ⟨x, rfl, hx⟩ | ⟨x, rfl, hx⟩
  · cases x with
    | nil => simp
    | cons d x =>
      rw [List.cons_append, List.cons.injEq] at hx
      right
      simp [hx.1]
  · left
    simp

/-! ## The greatest boundary below an offset -/

theorem boundaryDownFrom_le (t : Text) (n : Nat) : boundaryDownFrom t n ≤ n := by
  induction n with
  | zero => exact Nat.le_refl 0
  | succ n ih =>
    unfold boundaryDownFrom
    split <;> omega

theorem isBoundary_boundaryDownFrom (t : Text) (n : Nat) :
    IsBoundary t (boundaryDownFrom t n) := by
  induction n with
  | zero => exact isBoundary_zero t
  | succ n ih =>
    unfold boundaryDownFrom
    split
    · next h => exact isBoundary_iff.1 h
    · exact ih

theorem le_boundaryDownFrom {t : Text} {m n : Nat} (h : IsBoundary t m) (hmn : m ≤ n) :
    m ≤ boundaryDownFrom t n := by
  induction n with
  | zero => omega
  | succ n ih =>
    unfold boundaryDownFrom
    split
    · exact hmn
    · next hn =>
      have hne : m ≠ n + 1 := by
        rintro rfl
        exact hn (isBoundary_iff.2 h)
      exact ih (by omega)

theorem isBoundary_floorBoundary (t : Text) (n : Nat) : IsBoundary t (floorBoundary t n) :=
  isBoundary_boundaryDownFrom t _

theorem floorBoundary_le (t : Text) (n : Nat) : floorBoundary t n ≤ n := by
  have := boundaryDownFrom_le t (min n (size t))
  rw [floorBoundary]
  omega

/-- No boundary lies between an offset and the boundary below it. -/
theorem le_floorBoundary {t : Text} {m n : Nat} (h : IsBoundary t m) (hmn : m ≤ n) :
    m ≤ floorBoundary t n :=
  le_boundaryDownFrom h (Nat.le_min.2 ⟨hmn, h.le_size⟩)

theorem floorBoundary_of_isBoundary {t : Text} {n : Nat} (h : IsBoundary t n) :
    floorBoundary t n = n :=
  Nat.le_antisymm (floorBoundary_le t n) (le_floorBoundary h (Nat.le_refl n))

theorem floorBoundary_mono (t : Text) {m n : Nat} (h : m ≤ n) :
    floorBoundary t m ≤ floorBoundary t n :=
  le_floorBoundary (isBoundary_floorBoundary t m) (Nat.le_trans (floorBoundary_le t m) h)

end Text

open Text

namespace Selection

/-! ## Selections that fit -/

instance (s : Selection) (t : Text) : Decidable (s.Fits t) :=
  inferInstanceAs (Decidable (_ ∧ _ ∧ _))

/-- **A selection that fits is the middle part of its text.** -/
theorem fits_iff {s : Selection} {t : Text} :
    s.Fits t ↔ ∃ a m b, t = a ++ m ++ b ∧ s = ⟨size a, size (a ++ m)⟩ := by
  constructor
  · rintro ⟨hle, hstart, hstop⟩
    obtain ⟨a, m, b, ht, ha, hm⟩ := hstart.cut hstop hle
    refine ⟨a, m, b, ht, ?_⟩
    rw [ha, hm]
  · rintro ⟨a, m, b, rfl, rfl⟩
    refine ⟨?_, ?_, isBoundary_append _ _⟩
    · simp
    · rw [List.append_assoc]
      exact isBoundary_append _ _

theorem collapsed_fits_iff {t : Text} {n : Nat} : (collapsed n).Fits t ↔ IsBoundary t n := by
  constructor
  · rintro ⟨-, h, -⟩
    exact h
  · intro h
    exact ⟨Nat.le_refl n, h, h⟩

/-- **Whatever the two offsets are, the clamped selection fits.** -/
theorem clamp_fits (t : Text) (a b : Nat) : (clamp t a b).Fits t := by
  unfold clamp
  split
  · next h =>
    exact ⟨floorBoundary_mono t h, isBoundary_floorBoundary t a, isBoundary_floorBoundary t b⟩
  · next h =>
    have h' : b ≤ a := by omega
    exact ⟨floorBoundary_mono t h', isBoundary_floorBoundary t b, isBoundary_floorBoundary t a⟩

/-- Clamping keeps a selection that fits. -/
theorem clamp_of_fits {s : Selection} {t : Text} (h : s.Fits t) : clamp t s.start s.stop = s := by
  obtain ⟨hle, hstart, hstop⟩ := h
  rw [clamp, if_pos hle, floorBoundary_of_isBoundary hstart, floorBoundary_of_isBoundary hstop]

end Selection

end MarkupPad
