import MarkupPad.Proofs.Json.Parser

/-!
# Whole numbers

A whole number is written with its digits, and read with all of them: as a natural number, or as
the opposite of one, never as a float.

    number (Nat.toDigits 10 n) = n                                            (number_toDigits)
    (nat n).numeral? = some (.natural n)            if n < Word.limit            (numeral?_nat)
    (int (-n)).numeral? = some (.negative n)        if 0 < n ≤ Word.signedLimit
                                                                          (numeral?_int_of_neg)
-/

namespace MarkupPad.Json

namespace Literal

/-! ## Digits -/

/-- A run of digits is read as the number that it is written for. -/
theorem number_eq (digits : Text) : number digits = Nat.ofDigitChars 10 digits 0 := by
  rw [number, Nat.ofDigitChars_eq_foldl]
  congr
  funext n c
  rw [digit, Nat.mul_comm]

@[simp] theorem number_toDigits (n : Nat) : number (Nat.toDigits 10 n) = n := by
  rw [number_eq, Nat.ofDigitChars_toDigits (by decide) (by decide)]

theorem isDigit_of_mem_toDigits {n : Nat} {c : Char} (hc : c ∈ Nat.toDigits 10 n) : c.isDigit :=
  Nat.isDigit_of_mem_toDigits (by decide) (by decide) hc

/-- No number but zero begins with a zero. -/
theorem head?_toDigits {n : Nat} (hn : n ≠ 0) : (Nat.toDigits 10 n).head? ≠ some '0' := by
  induction n using Nat.base_induction 10 (by decide) with
  | single m hm =>
    rw [Nat.toDigits_of_lt_base hm]
    decide +revert
  | digit m k hk hm ih =>
    rw [← Nat.toDigits_append_toDigits (by decide) hm hk]
    cases hdigits : Nat.toDigits 10 m with
    | nil => exact absurd hdigits Nat.toDigits_ne_nil
    | cons c digits =>
      rw [hdigits] at ih
      exact ih (Nat.ne_of_gt hm)

/-! ## Whole numbers -/

/-- A whole number with a sign. -/
def ofWhole (isNegative : Bool) (n : Nat) : Literal := ⟨isNegative, Nat.toDigits 10 n, [], none⟩

theorem isWritten_ofWhole (isNegative : Bool) (n : Nat) : (ofWhole isNegative n).IsWritten where
  whole_ne_nil := Nat.toDigits_ne_nil
  whole_digits := fun _ hc => isDigit_of_mem_toDigits hc
  leading := by
    by_cases hn : n = 0
    · subst hn
      exact .inr rfl
    · exact .inl (head?_toDigits hn)
  fraction_digits := List.forall_mem_nil _
  exponent_ne_nil := fun _ h => nomatch h
  exponent_digits := fun _ h => nomatch h

theorem unsignedText_ofWhole (isNegative : Bool) (n : Nat) :
    (ofWhole isNegative n).unsignedText = Nat.toDigits 10 n := by
  simp [unsignedText, ofWhole, fractionText, exponentText]

end Literal

open Literal

theorem nat_eq (n : Nat) : nat n = number (ofWhole false n).text := by
  rw [nat, Literal.text, unsignedText_ofWhole]
  rfl

theorem int_eq (n : Int) : int n = number (ofWhole (n < 0) n.natAbs).text := by
  rw [int, Literal.text, unsignedText_ofWhole]
  by_cases hn : n < 0 <;> simp [ofWhole, hn]

theorem isWritten_nat (n : Nat) : (nat n).IsWritten :=
  nat_eq n ▸ .number (isWritten_ofWhole false n)

theorem isWritten_int (n : Int) : (int n).IsWritten :=
  int_eq n ▸ .number (isWritten_ofWhole _ _)

/-- **Whole numbers of up to 64 bits are read as they are written.** -/
theorem numeral?_nat {n : Nat} (hn : n < Word.limit) : (nat n).numeral? = some (.natural n) := by
  rw [nat_eq, numeral?, ofText_text (isWritten_ofWhole _ _)]
  simp [numeral, ofWhole, isWhole, hn]

theorem int_of_nonneg {n : Int} (hn : 0 ≤ n) : int n = nat n.toNat := by
  have hneg : ¬ n < 0 := by omega
  have habs : n.natAbs = n.toNat := by omega
  rw [int, if_neg hneg, habs, nat]

/-- **So are negative ones of up to 63 bits.** -/
theorem numeral?_int_of_neg {n : Int} (hn : n < 0) (hlimit : -(Word.signedLimit : Int) ≤ n) :
    (int n).numeral? = some (.negative n.natAbs) := by
  have hpos : 0 < n.natAbs := by omega
  have hle : n.natAbs ≤ Word.signedLimit := by omega
  rw [int_eq, numeral?, ofText_text (isWritten_ofWhole _ _)]
  simp [numeral, ofWhole, isWhole, hn, hle, Int.natAbs_pos.1 hpos]

theorem nat?_nat {n limit : Nat} (hn : n < limit) (hlimit : limit ≤ Word.limit) :
    (nat n).nat? limit = some n := by
  rw [nat?, numeral?_nat (Nat.lt_of_lt_of_le hn hlimit)]
  exact if_pos hn

end MarkupPad.Json
