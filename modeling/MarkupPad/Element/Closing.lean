import MarkupPad.Text.Ascii
import MarkupPad.Text.Blank

/-!
# The closing tag that balances an opening tag

The text after an opening tag is scanned from `<` to `<`.  A tag that opens another
element of the same name goes one level deeper, a closing tag of that name comes one
level up, and the closing tag met at level 0 is the answer.  Names are compared without
regard to ASCII case, and nothing else of the markup is looked at.

    opens name t → ¬ closes name t      (not_closes_of_opens)
-/

namespace MarkupPad.Element

open Text

/-! ## Algorithm -/

/-- Characters of element names: ASCII letters and the digits 1 to 6. -/
def isNameChar (c : Char) : Bool := c.isAlpha || ('1' ≤ c && c ≤ '6')

/-- Does the text after a `<` open an element of this name?  The name must be followed
by a blank, by `>` or by the end of the text. -/
def opens (name t : Text) : Bool :=
  match dropName? name t with
  | none => false
  | some [] => true
  | some (c :: _) => c = '>' || isAsciiBlank c

/-- Does the text after a `<` close an element of this name, as `/name>`? -/
def closes (name : Text) : Text → Bool
  | '/' :: t =>
    match dropName? name t with
    | some ('>' :: _) => true
    | _ => false
  | _ => false

/-- The balancing closing tag in a text that begins at offset `pos`.  Only tags that begin
after the offset `start` count; `depth` elements of the name are open inside the one
whose closing tag is sought. -/
def closingFrom? (name : Text) (start pos depth : Nat) : Text → Option Nat
  | [] => none
  | c :: t =>
    let next := pos + c.utf8Size
    if c = '<' ∧ start < pos then
      if closes name t then
        match depth with
        | 0 => some pos
        | inner + 1 => closingFrom? name start next inner t
      else if opens name t then closingFrom? name start next (depth + 1) t
      else closingFrom? name start next depth t
    else closingFrom? name start next depth t

/-- The offset of the closing tag that balances the opening tag which begins at `start`;
`none` when the markup is unbalanced. -/
def closing? (t : Text) (start : Nat) (name : Text) : Option Nat :=
  closingFrom? name start 0 0 t

/-! ## Lemmas -/

/-- Two spellings of a name, one shifted by a character against the other, hold nothing but
that character, and so it goes on after them. -/
theorem head?_of_shifted {a b rest tail : Text} {c : Char} (hs : Same a b)
    (h : b ++ rest = c :: (a ++ tail)) : ∃ d, rest.head? = some d ∧ d.toLower = c.toLower := by
  induction b generalizing a c with
  | nil =>
    have : a = [] := List.map_eq_nil_iff.1 hs
    subst this
    exact ⟨c, by simp at h; simp [h], rfl⟩
  | cons x b ih =>
    cases a with
    | nil => simp [Same] at hs
    | cons y a =>
      simp only [Same, asciiLower_cons, List.cons.injEq] at hs
      simp only [List.cons_append, List.cons.injEq] at h
      obtain ⟨d, hd, hd'⟩ := ih hs.2 h.2
      exact ⟨d, hd, by rw [hd', hs.1, h.1]⟩

/-- **No tag both opens and closes an element.** -/
theorem not_closes_of_opens {name t : Text} (h : opens name t) : ¬ closes name t := by
  intro h'
  unfold closes at h'
  split at h'
  · rename_i t'
    split at h'
    · rename_i r hr
      obtain ⟨typed, rfl, hs⟩ := dropName?_eq_some_iff.1 hr
      unfold opens at h
      split at h
      · cases h
      · rename_i hd
        obtain ⟨typed', ht, hs'⟩ := dropName?_eq_some_iff.1 hd
        obtain ⟨d, hd, -⟩ := head?_of_shifted (hs.trans hs'.symm) ht.symm
        cases hd
      · rename_i c rest hd
        obtain ⟨typed', ht, hs'⟩ := dropName?_eq_some_iff.1 hd
        obtain ⟨d, hd, hd'⟩ := head?_of_shifted (hs.trans hs'.symm) ht.symm
        cases hd
        simp only [Bool.or_eq_true, decide_eq_true_eq, isAsciiBlank] at h
        rcases h with rfl | (((rfl | rfl) | rfl) | rfl) | rfl <;> revert hd' <;> decide
    · cases h'
  · cases h'

end MarkupPad.Element
