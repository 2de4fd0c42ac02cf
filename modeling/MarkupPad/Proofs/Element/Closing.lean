import MarkupPad.Element.Closing
import MarkupPad.Proofs.Text.Case

/-!
# The scan for a closing tag

What the scan passes over and where it ends.

    opens name t ↔ ∃ typed rest, t = typed ++ rest ∧ Same typed name ∧ the name ends there
    closes name t ↔ ∃ typed rest, t = "/" ++ typed ++ ">" ++ rest ∧ Same typed name
    closingFrom? name start pos depth (a ++ t) =
      closingFrom? name start (pos + size a) depth t                where `<` is not in a
-/

namespace MarkupPad

open Text

namespace Element

/-- An opening tag spells the name out, and there the name ends. -/
theorem opens_iff {name t : Text} :
    opens name t ↔ ∃ typed rest, t = typed ++ rest ∧ Same typed name ∧
      ∀ c ∈ rest.head?, c = '>' ∨ isAsciiBlank c := by
  constructor
  · intro h
    unfold opens at h
    split at h
    · cases h
    · next hd =>
      obtain ⟨typed, rfl, hs⟩ := dropName?_eq_some_iff.1 hd
      exact ⟨typed, [], rfl, hs, by simp⟩
    · next c rest hd =>
      obtain ⟨typed, rfl, hs⟩ := dropName?_eq_some_iff.1 hd
      exact ⟨typed, c :: rest, rfl, hs, by simpa using h⟩
  · rintro ⟨typed, rest, rfl, hs, hend⟩
    have hd : dropName? name (typed ++ rest) = some rest := dropName?_eq_some_iff.2 ⟨typed, rfl, hs⟩
    rw [opens, hd]
    cases rest with
    | nil => rfl
    | cons c rest => simpa using hend

/-- A closing tag spells the name out. -/
theorem closes_iff {name t : Text} :
    closes name t ↔ ∃ typed rest, t = '/' :: (typed ++ '>' :: rest) ∧ Same typed name := by
  constructor
  · intro h
    unfold closes at h
    split at h
    · split at h
      · next rest hd =>
        obtain ⟨typed, rfl, hs⟩ := dropName?_eq_some_iff.1 hd
        exact ⟨typed, rest, rfl, hs⟩
      · cases h
    · cases h
  · rintro ⟨typed, rest, rfl, hs⟩
    have hd : dropName? name (typed ++ '>' :: rest) = some ('>' :: rest) :=
      dropName?_eq_some_iff.2 ⟨typed, rfl, hs⟩
    simp [closes, hd]

theorem closingFrom?_cons (name : Text) (start pos depth : Nat) (c : Char) (t : Text) :
    closingFrom? name start pos depth (c :: t) =
      if c = '<' ∧ start < pos then
        if closes name t then
          match depth with
          | 0 => some pos
          | inner + 1 => closingFrom? name start (pos + c.utf8Size) inner t
        else if opens name t then closingFrom? name start (pos + c.utf8Size) (depth + 1) t
        else closingFrom? name start (pos + c.utf8Size) depth t
      else closingFrom? name start (pos + c.utf8Size) depth t := by
  cases depth
  · rfl
  · rfl

/-- The answer of the scan is a closing tag of the name. -/
theorem closingFrom?_some {name t : Text} {start pos depth close : Nat}
    (h : closingFrom? name start pos depth t = some close) :
    ∃ a b, t = a ++ '<' :: b ∧ closes name b ∧ close = pos + size a := by
  induction t generalizing pos depth with
  | nil => cases h
  | cons c t ih =>
    have next {depth' : Nat} (h : closingFrom? name start (pos + c.utf8Size) depth' t = some close) :
        ∃ a b, c :: t = a ++ '<' :: b ∧ closes name b ∧ close = pos + size a := by
      obtain ⟨a, b, rfl, hb, rfl⟩ := ih h
      exact ⟨c :: a, b, rfl, hb, by simp [Nat.add_assoc]⟩
    rw [closingFrom?_cons] at h
    split at h
    · next hc =>
      split at h
      · next hclose =>
        split at h
        · cases h
          exact ⟨[], t, by rw [hc.1]; rfl, hclose, by simp⟩
        · exact next h
      · split at h
        · exact next h
        · exact next h
    · exact next h

/-- Nothing before the offset `start` counts. -/
theorem closingFrom?_append_of_le {name a t : Text} {start pos depth : Nat}
    (h : pos + size a ≤ start + 1) :
    closingFrom? name start pos depth (a ++ t) = closingFrom? name start (pos + size a) depth t := by
  induction a generalizing pos with
  | nil => rfl
  | cons c a ih =>
    have hpos := c.utf8Size_pos
    rw [size_cons] at h
    rw [List.cons_append, closingFrom?_cons, if_neg (by omega), ih (by omega), size_cons,
      Nat.add_assoc]

/-- A text without `<` is passed over. -/
theorem closingFrom?_append_of_not_mem {name a t : Text} {start pos depth : Nat} (h : '<' ∉ a) :
    closingFrom? name start pos depth (a ++ t) = closingFrom? name start (pos + size a) depth t := by
  induction a generalizing pos with
  | nil => rfl
  | cons c a ih =>
    rw [List.mem_cons, not_or] at h
    rw [List.cons_append, closingFrom?_cons, if_neg fun h' => h.1 h'.1.symm, ih h.2, size_cons,
      Nat.add_assoc]

end Element

end MarkupPad
