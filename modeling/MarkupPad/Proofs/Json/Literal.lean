import Mathlib.Data.List.TakeDrop
import MarkupPad.Json.Number
import MarkupPad.Json.Token

/-!
# Literals of numbers

A literal is written with its parts one after the other, and taken apart into the same parts.
Every number that is written has such a literal.

    l.IsWritten → Token.isNumber l.text                                     (isNumber_text)
    l.IsWritten → ofText l.text = l                                          (ofText_text)
-/

namespace MarkupPad.Json.Literal

open Json.Token

/-! ## Algorithm -/

/-- A fraction with its point, if there is one. -/
def fractionText : Text → Text
  | [] => []
  | fraction => '.' :: fraction

/-- An exponent with its sign, if there is one. -/
def exponentText : Option (Bool × Text) → Text
  | none => []
  | some (isNegative, digits) => 'e' :: (if isNegative then '-' else '+') :: digits

/-- A literal without its sign. -/
def unsignedText (l : Literal) : Text :=
  l.whole ++ (fractionText l.fraction ++ exponentText l.exponent)

/-- A literal with its parts one after the other. -/
def text (l : Literal) : Text := if l.isNegative then '-' :: l.unsignedText else l.unsignedText

/-- The parts are digits where they have to be, and a leading zero stands alone. -/
structure IsWritten (l : Literal) : Prop where
  whole_ne_nil : l.whole ≠ []
  whole_digits : ∀ c ∈ l.whole, c.isDigit
  leading : l.whole.head? ≠ some '0' ∨ l.whole.length = 1
  fraction_digits : ∀ c ∈ l.fraction, c.isDigit
  exponent_ne_nil : ∀ exponent ∈ l.exponent, exponent.2 ≠ []
  exponent_digits : ∀ exponent ∈ l.exponent, ∀ c ∈ exponent.2, c.isDigit

/-! ## Runs of digits -/

/-- A run of digits ends where something else begins. -/
theorem span_isDigit {digits rest : Text} (h : ∀ c ∈ digits, c.isDigit)
    (hrest : ∀ c, rest.head? = some c → ¬ c.isDigit) :
    (digits ++ rest).span Char.isDigit = (digits, rest) := by
  rw [List.span_eq_takeWhile_dropWhile, List.takeWhile_append_of_pos h,
    List.dropWhile_append_of_pos h]
  cases rest with
  | nil => simp
  | cons c rest =>
    have hc : ¬ c.isDigit := hrest c rfl
    rw [List.takeWhile_cons_of_neg hc, List.dropWhile_cons_of_neg hc, List.append_nil]

theorem digits?_append {digits rest : Text} (hne : digits ≠ []) (h : ∀ c ∈ digits, c.isDigit)
    (hrest : ∀ c, rest.head? = some c → ¬ c.isDigit) :
    digits? (digits ++ rest) = some (digits, rest) := by
  rw [digits?, span_isDigit h hrest]
  exact if_neg hne

theorem ne_of_isDigit {c : Char} (h : c.isDigit) : c ≠ '-' ∧ c ≠ '+' ∧ c ≠ '.' := by
  refine ⟨?_, ?_, ?_⟩ <;>
  · rintro rfl
    cases h

/-! ## What follows a run of digits -/

theorem head?_exponentText {exponent : Option (Bool × Text)} {c : Char}
    (h : (exponentText exponent).head? = some c) : c = 'e' := by
  cases exponent with
  | none => cases h
  | some exponent =>
    cases h
    rfl

theorem head?_fractionText {fraction : Text} {exponent : Option (Bool × Text)} {c : Char}
    (h : (fractionText fraction ++ exponentText exponent).head? = some c) : c = '.' ∨ c = 'e' := by
  cases fraction with
  | nil => exact .inr (head?_exponentText h)
  | cons digit fraction =>
    cases h
    exact .inl rfl

variable {l : Literal}

theorem not_isDigit_exponentText (exponent : Option (Bool × Text)) (c : Char)
    (h : (exponentText exponent).head? = some c) : ¬ c.isDigit := by
  rw [head?_exponentText h]
  decide

theorem not_isDigit_fractionText {fraction : Text} {exponent : Option (Bool × Text)} (c : Char)
    (h : (fractionText fraction ++ exponentText exponent).head? = some c) : ¬ c.isDigit := by
  rcases head?_fractionText h with rfl | rfl <;> decide

/-! ## Written literals -/

theorem isExponent_exponentText (h : l.IsWritten) : isExponent (exponentText l.exponent) := by
  cases hexponent : l.exponent with
  | none => rfl
  | some exponent =>
    obtain ⟨isNegative, digits⟩ := exponent
    have hdigits : digits? (digits ++ []) = some (digits, []) :=
      digits?_append (h.exponent_ne_nil _ hexponent) (h.exponent_digits _ hexponent)
        fun _ hc => nomatch hc
    rw [List.append_nil] at hdigits
    cases isNegative <;> simp [exponentText, isExponent, afterSign, hdigits]

theorem isFraction_fractionText (h : l.IsWritten) :
    isFraction (fractionText l.fraction ++ exponentText l.exponent) := by
  have hexponent := isExponent_exponentText h
  cases hfraction : l.fraction with
  | nil =>
    cases hl : l.exponent with
    | none => rfl
    | some exponent =>
      rw [hl] at hexponent
      exact hexponent
  | cons c fraction =>
    have hdigits := digits?_append (List.cons_ne_nil c fraction) (hfraction ▸ h.fraction_digits)
      (not_isDigit_exponentText l.exponent)
    simp only [fractionText, List.cons_append, isFraction] at hdigits ⊢
    rw [hdigits]
    exact hexponent

theorem exists_unsignedText_eq_cons (h : l.IsWritten) :
    ∃ c t, l.unsignedText = c :: t ∧ c.isDigit := by
  cases hwhole : l.whole with
  | nil => exact absurd hwhole h.whole_ne_nil
  | cons c whole =>
    refine ⟨c, whole ++ (fractionText l.fraction ++ exponentText l.exponent), ?_,
      h.whole_digits c (hwhole ▸ List.mem_cons_self)⟩
    rw [unsignedText, hwhole]
    rfl

theorem digits?_unsignedText (h : l.IsWritten) :
    digits? l.unsignedText = some (l.whole, fractionText l.fraction ++ exponentText l.exponent) :=
  digits?_append h.whole_ne_nil h.whole_digits not_isDigit_fractionText

/-- **What is written is a number.** -/
theorem isNumber_text (h : l.IsWritten) : isNumber l.text := by
  have hwhole := digits?_unsignedText h
  have hfraction := isFraction_fractionText h
  have hleading := h.leading
  obtain ⟨c, t, ht, hc⟩ := exists_unsignedText_eq_cons h
  rw [text]
  split
  · simp [isNumber, hwhole, hfraction, hleading]
  · rw [ht] at hwhole ⊢
    simp [isNumber, hwhole, hfraction, hleading, (ne_of_isDigit hc).1]

theorem span_unsignedText (h : l.IsWritten) :
    l.unsignedText.span Char.isDigit =
      (l.whole, fractionText l.fraction ++ exponentText l.exponent) :=
  span_isDigit h.whole_digits not_isDigit_fractionText

/-- **What is written is taken apart into its parts.** -/
theorem ofText_text (h : l.IsWritten) : ofText l.text = l := by
  obtain ⟨c, t, ht, hc⟩ := exists_unsignedText_eq_cons h
  have hsign : l.text.head? = some '-' ↔ l.isNegative := by
    rw [text]
    cases l.isNegative <;> simp [ht, (ne_of_isDigit hc).1]
  have hbody : (if l.text.head? = some '-' then l.text.drop 1 else l.text) = l.unsignedText := by
    simp only [hsign]
    rw [text]
    split <;> rfl
  have hspan := span_unsignedText h
  have hfraction := span_isDigit h.fraction_digits
    (not_isDigit_exponentText l.exponent)
  unfold ofText
  simp only [hbody, hspan]
  simp only [hsign, Bool.decide_eq_true]
  obtain ⟨isNegative, whole, fraction, exponent⟩ := l
  simp only at hfraction ⊢
  cases fraction with
  | nil =>
    cases exponent with
    | none => rfl
    | some exponent =>
      obtain ⟨isNegative, digits⟩ := exponent
      cases isNegative <;> rfl
  | cons c fraction =>
    simp only [fractionText, List.cons_append] at hfraction ⊢
    rw [hfraction]
    cases exponent with
    | none => rfl
    | some exponent =>
      obtain ⟨isNegative, digits⟩ := exponent
      cases isNegative <;> rfl

/-! ## Characters -/

theorem isNumberChar_of_isDigit {c : Char} (h : c.isDigit) : isNumberChar c := by
  simp [isNumberChar, h]

theorem isNumberChar_of_mem_exponentText (h : l.IsWritten) :
    ∀ c ∈ exponentText l.exponent, isNumberChar c := by
  cases hexponent : l.exponent with
  | none => exact List.forall_mem_nil _
  | some exponent =>
    obtain ⟨isNegative, digits⟩ := exponent
    have hdigits : ∀ c ∈ digits, isNumberChar c := fun c hc =>
      isNumberChar_of_isDigit (h.exponent_digits _ hexponent c hc)
    simp only [exponentText, List.forall_mem_cons]
    refine ⟨rfl, ?_, hdigits⟩
    cases isNegative <;> rfl

theorem isNumberChar_of_mem_fractionText (h : l.IsWritten) :
    ∀ c ∈ fractionText l.fraction, isNumberChar c := by
  cases hfraction : l.fraction with
  | nil => exact List.forall_mem_nil _
  | cons digit fraction =>
    refine List.forall_mem_cons.2 ⟨rfl, fun c hc => ?_⟩
    exact isNumberChar_of_isDigit (h.fraction_digits c (hfraction ▸ hc))

/-- A literal is a run of the characters of numbers. -/
theorem isNumberChar_of_mem_text (h : l.IsWritten) : ∀ c ∈ l.text, isNumberChar c := by
  have hunsigned : ∀ c ∈ l.unsignedText, isNumberChar c := by
    rw [unsignedText]
    refine List.forall_mem_append.2 ⟨fun c hc => ?_, List.forall_mem_append.2 ⟨?_, ?_⟩⟩
    · exact isNumberChar_of_isDigit (h.whole_digits c hc)
    · exact isNumberChar_of_mem_fractionText h
    · exact isNumberChar_of_mem_exponentText h
  rw [text]
  split
  · exact List.forall_mem_cons.2 ⟨rfl, hunsigned⟩
  · exact hunsigned

/-- A literal begins with a minus sign or a digit. -/
theorem exists_text_eq_cons (h : l.IsWritten) : ∃ c t, l.text = c :: t ∧ (c = '-' ∨ c.isDigit) := by
  rw [text]
  split
  · exact ⟨'-', l.unsignedText, rfl, .inl rfl⟩
  · obtain ⟨c, t, ht, hc⟩ := exists_unsignedText_eq_cons h
    exact ⟨c, t, ht, .inr hc⟩

end MarkupPad.Json.Literal
