import MarkupPad.Proofs.Decimal.Shortest
import MarkupPad.Proofs.Json.Number

/-!
# Decimals in JSON

A decimal is written as a literal with all of its digits, and the literal is read as the float of
its digits, times or by a power of ten.

    floatLayout.decimal d = (ofDecimal false d).text                         (text_ofDecimal)
    (ofDecimal isNegative d).magnitude? = d.written.scaled?                   (magnitude?_ofDecimal)
-/

namespace MarkupPad

namespace Decimal

/-! ## Decimals as they are written -/

/-- The exponent of the first digit. -/
def first (d : Decimal) : ℤ := d.exponent + (Nat.toDigits 10 d.coefficient).length - 1

/-- Is the decimal written as a whole number, with a zero after its point? -/
def IsWhole (d : Decimal) : Prop := 0 ≤ d.exponent ∧ Json.floatLayout.isPositional d.first

instance (d : Decimal) : Decidable d.IsWhole := inferInstanceAs (Decidable (_ ∧ _))

/-- The decimal with the digits that are written. -/
def written (d : Decimal) : Decimal :=
  if d.IsWhole then ⟨d.coefficient * 10 ^ (d.exponent.toNat + 1), -1⟩ else d

/-- The float of the coefficient, times or by a power of ten. -/
def scaled? (d : Decimal) : Option Float := Json.Literal.scale? (.ofNat d.coefficient) d.exponent

end Decimal

namespace Json

namespace Literal

/-! ## Significands -/

theorem le_ofDigitChars (digits : Text) (s : ℕ) : s ≤ Nat.ofDigitChars 10 digits s := by
  have hle : s ≤ 10 ^ digits.length * s := Nat.le_mul_of_pos_left s (Nat.pow_pos (by decide))
  rw [Nat.ofDigitChars_eq_ofDigitChars_zero]
  omega

/-- As long as there is room for them, all digits are gathered. -/
theorem gather_eq {s : ℕ} {digits : Text} (h : Nat.ofDigitChars 10 digits s < Word.limit) :
    gather s digits = (Nat.ofDigitChars 10 digits s, []) := by
  induction digits generalizing s with
  | nil => rfl
  | cons c digits ih =>
    rw [Nat.ofDigitChars_cons] at h ⊢
    have hle := le_ofDigitChars digits (10 * s + (c.toNat - '0'.toNat))
    have hmore : s * 10 + digit c = 10 * s + (c.toNat - '0'.toNat) := by
      rw [digit, Nat.mul_comm]
    simp only [gather, hmore]
    rw [if_neg (by omega), ih h]

theorem significand_eq {l : Literal}
    (h : Nat.ofDigitChars 10 (l.whole ++ l.fraction) 0 < Word.limit) :
    l.significand = (Nat.ofDigitChars 10 (l.whole ++ l.fraction) 0, -(l.fraction.length : ℤ)) := by
  rw [Nat.ofDigitChars_append] at h ⊢
  have hwhole := lt_of_le_of_lt (le_ofDigitChars l.fraction _) h
  simp [significand, gather_eq hwhole, gather_eq h]

/-! ## The literal of a decimal -/

/-- All digits, with a point before, inside or after the digits of the coefficient. -/
def ofPositional (isNegative : Bool) (digits : Text) (exponent : ℤ) : Literal :=
  let whole := (digits.length : ℤ) + exponent
  if 0 ≤ exponent then ⟨isNegative, digits ++ List.replicate exponent.toNat '0', ['0'], none⟩
  else if 0 < whole then ⟨isNegative, digits.take whole.toNat, digits.drop whole.toNat, none⟩
  else ⟨isNegative, ['0'], List.replicate (-whole).toNat '0' ++ digits, none⟩

/-- One digit before the point, and the exponent of that digit. -/
def ofScientific (isNegative : Bool) (digits : Text) (first : ℤ) : Literal :=
  ⟨isNegative, digits.take 1, digits.drop 1, some (first < 0, Nat.toDigits 10 first.natAbs)⟩

/-- The literal of a decimal with a sign. -/
def ofDecimal (isNegative : Bool) (d : Decimal) : Literal :=
  let digits := Nat.toDigits 10 d.coefficient
  if floatLayout.isPositional d.first then ofPositional isNegative digits d.exponent
  else ofScientific isNegative digits d.first

theorem isWhole_iff {l : Literal} : l.isWhole ↔ l.fraction = [] ∧ l.exponent = none := by
  rw [isWhole, Bool.and_eq_true, decide_eq_true_iff, Option.isNone_iff_eq_none]

theorem fractionText_eq_cons {fraction : Text} (h : fraction ≠ []) :
    fractionText fraction = '.' :: fraction := by
  cases fraction with
  | nil => exact absurd rfl h
  | cons c fraction => rfl

section
variable {isNegative : Bool} {digits : Text} {exponent : ℤ}

theorem isNegative_ofPositional :
    (ofPositional isNegative digits exponent).isNegative = isNegative := by
  unfold ofPositional
  grind

theorem exponent_ofPositional : (ofPositional isNegative digits exponent).exponent = none := by
  unfold ofPositional
  grind

theorem fraction_ofPositional_ne_nil (isNegative : Bool) (exponent : ℤ) (hne : digits ≠ []) :
    (ofPositional isNegative digits exponent).fraction ≠ [] := by
  simp only [ofPositional]
  split
  · exact List.cons_ne_nil _ _
  · split
    · rw [Ne, List.drop_eq_nil_iff]
      omega
    · exact List.append_ne_nil_of_right_ne_nil _ hne

theorem unsignedText_ofPositional (hne : digits ≠ []) :
    (ofPositional isNegative digits exponent).unsignedText =
      floatLayout.positional digits exponent := by
  have hfraction := fractionText_eq_cons (fraction_ofPositional_ne_nil isNegative exponent hne)
  rw [unsignedText, hfraction, exponent_ofPositional]
  simp only [ofPositional, Layout.positional, exponentText, List.append_nil]
  split
  · simp [floatLayout]
  · split <;> simp

theorem unsignedText_ofScientific :
    (ofScientific isNegative digits exponent).unsignedText =
      floatLayout.scientific digits exponent := by
  simp only [unsignedText, ofScientific, exponentText, Layout.scientific]
  cases digits.drop 1 <;> by_cases hneg : exponent < 0 <;> simp [fractionText, hneg, floatLayout]

end

/-- A literal without exponent. -/
theorem isWritten_of_digits {isNegative : Bool} {whole fraction : Text} (hne : whole ≠ [])
    (hwhole : ∀ c ∈ whole, c.isDigit) (hleading : whole.head? ≠ some '0' ∨ whole.length = 1)
    (hfraction : ∀ c ∈ fraction, c.isDigit) : IsWritten ⟨isNegative, whole, fraction, none⟩ :=
  ⟨hne, hwhole, hleading, hfraction, fun _ h => (nomatch h), fun _ h => (nomatch h)⟩

section
variable {isNegative : Bool} {n : ℕ} {exponent : ℤ}

theorem isWritten_ofPositional (hzero : n = 0 → exponent = 0) :
    (ofPositional isNegative (Nat.toDigits 10 n) exponent).IsWritten := by
  have hne : Nat.toDigits 10 n ≠ [] := Nat.toDigits_ne_nil
  have hdigits : ∀ c ∈ Nat.toDigits 10 n, c.isDigit := fun _ => isDigit_of_mem_toDigits
  have hzeros (k : ℕ) : ∀ c ∈ List.replicate k '0', c.isDigit := by
    intro c hc
    rw [List.eq_of_mem_replicate hc]
    rfl
  simp only [ofPositional]
  split
  · refine isWritten_of_digits (List.append_ne_nil_of_left_ne_nil hne _)
      (List.forall_mem_append.2 ⟨hdigits, hzeros _⟩) ?_ (List.forall_mem_singleton.2 rfl)
    by_cases hn : n = 0
    · exact .inr (by simp [hn, hzero hn])
    · refine .inl ?_
      rw [List.head?_append_of_ne_nil _ hne]
      exact head?_toDigits hn
  · split
    · next hwhole =>
      have hn : n ≠ 0 := fun hn => by
        have := hzero hn
        omega
      refine isWritten_of_digits ?_ (fun c hc => hdigits c (List.mem_of_mem_take hc)) ?_
        (fun c hc => hdigits c (List.mem_of_mem_drop hc))
      · rw [Ne, List.take_eq_nil_iff]
        rintro (h | h)
        · omega
        · exact hne h
      · refine .inl ?_
        rw [List.head?_take, if_neg (by omega)]
        exact head?_toDigits hn
    · exact isWritten_of_digits (List.cons_ne_nil _ _) (List.forall_mem_singleton.2 rfl) (.inr rfl)
        (List.forall_mem_append.2 ⟨hzeros _, hdigits⟩)

theorem isWritten_ofScientific :
    (ofScientific isNegative (Nat.toDigits 10 n) exponent).IsWritten := by
  have hne : Nat.toDigits 10 n ≠ [] := Nat.toDigits_ne_nil
  have hdigits : ∀ c ∈ Nat.toDigits 10 n, c.isDigit := fun _ => isDigit_of_mem_toDigits
  have hlength : 0 < (Nat.toDigits 10 n).length := List.length_pos_of_ne_nil hne
  refine ⟨?_, fun c hc => hdigits c (List.mem_of_mem_take hc), .inr ?_,
    fun c hc => hdigits c (List.mem_of_mem_drop hc), ?_, ?_⟩
  · rw [Ne, ofScientific, List.take_eq_nil_iff]
    rintro (h | h)
    · cases h
    · exact hne h
  · rw [ofScientific, List.length_take]
    omega
  · rintro _ ⟨⟩
    exact Nat.toDigits_ne_nil
  · rintro _ ⟨⟩
    exact fun _ => isDigit_of_mem_toDigits

/-! ## The digits that are read -/

theorem ofDigitChars_toDigits_append_zeros (n k : ℕ) :
    Nat.ofDigitChars 10 (Nat.toDigits 10 n ++ List.replicate k '0') 0 = n * 10 ^ k := by
  rw [Nat.ofDigitChars_append, Nat.ofDigitChars_toDigits (by decide) (by decide),
    Nat.ofDigitChars_replicate_zero, Nat.mul_comm]

theorem ofDigitChars_zeros_append_toDigits (n k : ℕ) :
    Nat.ofDigitChars 10 (List.replicate k '0' ++ Nat.toDigits 10 n) 0 = n := by
  rw [Nat.ofDigitChars_append, Nat.ofDigitChars_replicate_zero, Nat.mul_zero,
    Nat.ofDigitChars_toDigits (by decide) (by decide)]

theorem significand_ofPositional_of_whole (he : 0 ≤ exponent)
    (hn : n * 10 ^ (exponent.toNat + 1) < Word.limit) :
    (ofPositional isNegative (Nat.toDigits 10 n) exponent).significand =
      (n * 10 ^ (exponent.toNat + 1), -1) := by
  have hdigits := ofDigitChars_toDigits_append_zeros n (exponent.toNat + 1)
  rw [List.replicate_succ', ← List.append_assoc] at hdigits
  rw [significand_eq] <;> simp only [ofPositional, if_pos he, hdigits]
  · rfl
  · exact hn

theorem significand_ofPositional (he : ¬ 0 ≤ exponent) (hn : n < Word.limit) :
    (ofPositional isNegative (Nat.toDigits 10 n) exponent).significand = (n, exponent) := by
  have hdigits : Nat.ofDigitChars 10 (Nat.toDigits 10 n) 0 = n :=
    Nat.ofDigitChars_toDigits (by decide) (by decide)
  have hzeros (k : ℕ) :
      Nat.ofDigitChars 10 (['0'] ++ (List.replicate k '0' ++ Nat.toDigits 10 n)) 0 = n :=
    ofDigitChars_zeros_append_toDigits n (k + 1)
  simp only [ofPositional, if_neg he]
  split
  · rw [significand_eq] <;> simp only [List.take_append_drop, hdigits, List.length_drop]
    · congr
      omega
    · exact hn
  · rw [significand_eq] <;> simp only [hzeros, List.length_append, List.length_replicate]
    · congr
      omega
    · exact hn

theorem significand_ofScientific (hn : n < Word.limit) :
    (ofScientific isNegative (Nat.toDigits 10 n) exponent).significand =
      (n, 1 - ((Nat.toDigits 10 n).length : ℤ)) := by
  have hdigits : Nat.ofDigitChars 10 (Nat.toDigits 10 n) 0 = n :=
    Nat.ofDigitChars_toDigits (by decide) (by decide)
  have hpos : 0 < (Nat.toDigits 10 n).length := Nat.length_toDigits_pos
  rw [significand_eq] <;>
    simp only [ofScientific, List.take_append_drop, hdigits, List.length_drop]
  · congr
    omega
  · exact hn

end

/-! ## Decimals -/

variable {d : Decimal} {isNegative : Bool}

theorem isNegative_ofDecimal : (ofDecimal isNegative d).isNegative = isNegative := by
  simp only [ofDecimal]
  split
  · exact isNegative_ofPositional
  · rfl

/-- A decimal is written with a fraction or an exponent. -/
theorem isWhole_ofDecimal : ¬ (ofDecimal isNegative d).isWhole := by
  rw [isWhole_iff]
  simp only [ofDecimal]
  split
  · exact fun h => fraction_ofPositional_ne_nil _ _ Nat.toDigits_ne_nil h.1
  · exact fun h => nomatch h.2

/-- **A decimal is written as its literal.** -/
theorem text_ofDecimal :
    (ofDecimal isNegative d).text =
      (if isNegative then ['-'] else []) ++ floatLayout.decimal d := by
  have hunsigned : (ofDecimal isNegative d).unsignedText = floatLayout.decimal d := by
    simp only [ofDecimal, Layout.decimal]
    split
    · exact (unsignedText_ofPositional Nat.toDigits_ne_nil).trans (if_pos ‹_›).symm
    · exact unsignedText_ofScientific.trans (if_neg ‹_›).symm
  rw [text, isNegative_ofDecimal, hunsigned]
  split <;> rfl

theorem isWritten_ofDecimal (hzero : d.coefficient = 0 → d.exponent = 0) :
    (ofDecimal isNegative d).IsWritten := by
  simp only [ofDecimal]
  split
  · exact isWritten_ofPositional hzero
  · exact isWritten_ofScientific

/-- **A literal is read as the float of its digits, times or by a power of ten.** -/
theorem magnitude?_ofDecimal (hd : d.written.coefficient < Word.limit)
    (hfirst : d.first.natAbs < 2147483648) :
    (ofDecimal isNegative d).magnitude? = d.written.scaled? := by
  rw [Decimal.scaled?]
  unfold Decimal.written Decimal.IsWhole at hd ⊢
  by_cases hpos : floatLayout.isPositional d.first
  · by_cases he : 0 ≤ d.exponent
    · simp only [hpos, he, and_self, if_true] at hd ⊢
      simp [magnitude?, ofDecimal, hpos, significand_ofPositional_of_whole he hd,
        exponent_ofPositional]
    · simp only [he, false_and, if_false] at hd ⊢
      simp [magnitude?, ofDecimal, hpos, significand_ofPositional he hd, exponent_ofPositional]
  · simp only [hpos, Bool.false_eq_true, and_false, if_false] at hd ⊢
    have hsum : 1 - ((Nat.toDigits 10 d.coefficient).length : ℤ) + d.first = d.exponent := by
      rw [Decimal.first]
      ring
    have hspelled : (if d.first < 0 then -(d.first.natAbs : ℤ) else d.first.natAbs) = d.first := by
      split <;> omega
    simp only [magnitude?, ofDecimal, if_neg hpos, significand_ofScientific hd]
    simp only [ofScientific, number_toDigits, decide_eq_true_eq, hspelled, hsum]
    rw [if_neg (by omega)]

end Literal
end Json
end MarkupPad
