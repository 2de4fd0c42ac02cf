import MarkupPad.Text.Basic

/-!
# Comparing texts without regard to ASCII case

Names of tags, attributes and facets are compared letter by letter, where only the
26 ASCII letters have a case.

    dropName? name t = some rest ↔ ∃ typed, t = typed ++ rest ∧ Same typed name
-/

namespace MarkupPad.Text

/-! ## Algorithm -/

/-- The text with its ASCII capitals made small. -/
def asciiLower (t : Text) : Text := t.map Char.toLower

/-- Two texts that differ at most in the case of ASCII letters. -/
def Same (a b : Text) : Prop := asciiLower a = asciiLower b

instance (a b : Text) : Decidable (Same a b) := inferInstanceAs (Decidable (_ = _))

/-- What follows `name` at the front of a text, whatever its case there. -/
def dropName? : Text → Text → Option Text
  | [], t => some t
  | _ :: _, [] => none
  | n :: name, c :: t => if n.toLower = c.toLower then dropName? name t else none

/-! ## Lemmas -/

@[simp] theorem asciiLower_nil : asciiLower [] = [] := rfl

@[simp] theorem asciiLower_cons (c : Char) (t : Text) :
    asciiLower (c :: t) = c.toLower :: asciiLower t := rfl

theorem Same.refl (t : Text) : Same t t := rfl

theorem dropName?_eq_some_iff {name t rest : Text} :
    dropName? name t = some rest ↔ ∃ typed, t = typed ++ rest ∧ Same typed name := by
  fun_induction dropName? name t with
  | case1 t =>
    simp only [Option.some.injEq]
    constructor
    · rintro rfl
      exact ⟨[], rfl, rfl⟩
    · rintro ⟨typed, rfl, h⟩
      have : typed = [] := List.map_eq_nil_iff.1 h
      simp [this]
  | case2 n name =>
    simp only [reduceCtorEq, false_iff, not_exists, not_and]
    intro typed h h'
    obtain ⟨rfl, rfl⟩ := List.append_eq_nil_iff.1 h.symm
    simp [Same] at h'
  | case3 n name c t h ih =>
    rw [ih]
    constructor
    · rintro ⟨typed, rfl, hs⟩
      exact ⟨c :: typed, rfl, by simp [Same, h] at hs ⊢; exact hs⟩
    · rintro ⟨typed, ht, hs⟩
      cases typed with
      | nil => simp [Same] at hs
      | cons d typed =>
        simp only [List.cons_append, List.cons.injEq] at ht
        obtain ⟨rfl, rfl⟩ := ht
        simp only [Same, asciiLower_cons, List.cons.injEq] at hs
        exact ⟨typed, rfl, hs.2⟩
  | case4 n name c t h =>
    simp only [reduceCtorEq, false_iff, not_exists, not_and]
    intro typed ht hs
    cases typed with
    | nil => simp [Same] at hs
    | cons d typed =>
      simp only [List.cons_append, List.cons.injEq] at ht
      obtain ⟨rfl, rfl⟩ := ht
      simp only [Same, asciiLower_cons, List.cons.injEq] at hs
      exact h hs.1.symm

end MarkupPad.Text
