import MarkupPad.Proofs.Float.Arithmetic
import MarkupPad.Proofs.Json.Decimal

/-!
# Floats in JSON

A finite float is written as its shortest decimal, and read as the digits of that decimal, times or
by a power of ten.  The digits, the power and the result are each rounded, so that the float that is
read need not be the one that is written.  It is if neither the digits nor the power have to be
rounded, and in any case it is not too great to be read.

    (float x).numeral? = rereadSize? x, with the sign of x                    (numeral?_float)
    (rereadSize? x).isSome                                                (isSome_rereadSize?)
    rereadSize? x = some x.abs   if the digits are below 2^53 and the power is up to 10^22
                                                                   (rereadSize?_of_few_digits)
-/

namespace MarkupPad

namespace FloatParts

/-- The decimal that is written for a finite float, without the sign. -/
def decimal : FloatParts → Decimal
  | .finite _ m q => if m = 0 then ⟨0, 0⟩ else .ofFloat m q .toEven
  | _ => ⟨0, 0⟩

variable {isNegative : Bool} {m : ℕ} {q : ℤ}

theorem decimal_zero : (finite isNegative 0 q).decimal = ⟨0, 0⟩ := rfl

theorem decimal_of_pos (hm : 0 < m) : (finite isNegative m q).decimal = .ofFloat m q .toEven :=
  if_neg hm.ne'

theorem exponent_decimal_of_zero (hc : IsCanonical m q)
    (hzero : (finite isNegative m q).decimal.coefficient = 0) :
    (finite isNegative m q).decimal.exponent = 0 := by
  by_cases hm : m = 0
  · subst hm
    rfl
  · rw [decimal_of_pos (Nat.pos_of_ne_zero hm)] at hzero
    have := Decimal.coefficient_ofFloat_pos hc (Nat.pos_of_ne_zero hm) .toEven
    omega

/-- The first digit is near enough to the point for an exponent of 31 bits. -/
theorem natAbs_first_decimal_lt (hc : IsCanonical m q) (hq : q ≤ 971) :
    (finite isNegative m q).decimal.first.natAbs < 2147483648 := by
  by_cases hm : m = 0
  · subst hm
    rw [decimal_zero]
    decide
  · have hpos := Nat.pos_of_ne_zero hm
    rw [decimal_of_pos hpos]
    obtain ⟨hlow, hhigh⟩ := Decimal.leading_bounds hc hpos hq
    have hexponent := Decimal.exponent_ofFloat_le hc hpos .toEven
    have hexponent' := (Decimal.ofFloat_cases hc hpos .toEven).2
    have hlength : (Nat.toDigits 10 (Decimal.ofFloat m q .toEven).coefficient).length ≤ 19 := by
      rw [Nat.length_toDigits_le_iff (by decide) (by decide)]
      exact lt_trans (Decimal.coefficient_ofFloat_lt hc hpos .toEven) (by decide)
    rw [Decimal.first]
    omega

end FloatParts

namespace Decimal

theorem value_written (d : Decimal) : d.written.value = d.value := by
  unfold written
  split
  · next hwhole =>
    rw [value, value]
    push_cast
    rw [← zpow_natCast, mul_assoc, ← zpow_add₀ (by norm_num)]
    congr
    have := hwhole.1
    push_cast
    omega
  · rfl

/-- Whole numbers are written out up to seventeen digits. -/
theorem coefficient_written_lt {d : Decimal} (hd : d.coefficient < Word.limit) :
    d.written.coefficient < Word.limit := by
  unfold written
  split
  · next hwhole =>
    obtain ⟨he, hpositional⟩ := hwhole
    have hfirst : d.first < 16 := by
      simp only [Json.floatLayout, Bool.and_eq_true, decide_eq_true_eq] at hpositional
      exact hpositional.2
    rw [first] at hfirst
    have hdigits := lt_pow_length_toDigits d.coefficient
    calc d.coefficient * 10 ^ (d.exponent.toNat + 1)
      _ < 10 ^ (Nat.toDigits 10 d.coefficient).length * 10 ^ (d.exponent.toNat + 1) :=
        Nat.mul_lt_mul_of_pos_right hdigits (by positivity)
      _ = 10 ^ ((Nat.toDigits 10 d.coefficient).length + (d.exponent.toNat + 1)) :=
        (pow_add _ _ _).symm
      _ ≤ 10 ^ 17 := Nat.pow_le_pow_right (by decide) (by omega)
      _ < Word.limit := by decide
  · exact hd

end Decimal

namespace Json

open FloatParts Literal

/-- The size of a float that is written and read again. -/
def rereadSize? (x : Float) : Option Float := (ofFloat x).decimal.written.scaled?

variable {x : Float} {isNegative : Bool} {m : ℕ} {q : ℤ}

/-- A finite float is written as a literal. -/
theorem float_eq (h : ofFloat x = .finite isNegative m q) :
    float x = number (ofDecimal isNegative (ofFloat x).decimal).text := by
  have hfinite : x.isFinite := isFinite_iff.2 ⟨_, _, _, h⟩
  rw [float, if_pos hfinite, text_ofDecimal]
  change number (floatLayout.parts (ofFloat x)) = _
  rw [h]
  rfl

theorem isWritten_ofDecimal_decimal (h : ofFloat x = .finite isNegative m q) :
    (ofDecimal isNegative (ofFloat x).decimal).IsWritten := by
  rw [h]
  exact isWritten_ofDecimal (exponent_decimal_of_zero (isCanonical_of_ofFloat h).1)

/-- **Every float is written as JSON.** -/
theorem isWritten_float (x : Float) : (float x).IsWritten := by
  by_cases hx : x.isFinite
  · obtain ⟨isNegative, m, q, h⟩ := isFinite_iff.1 hx
    rw [float_eq h]
    exact .number (isWritten_ofDecimal_decimal h)
  · rw [float, if_neg hx]
    exact .null

theorem coefficient_decimal_lt (h : ofFloat x = .finite isNegative m q) :
    (ofFloat x).decimal.coefficient < Word.limit := by
  rw [h]
  by_cases hm : m = 0
  · rw [hm, decimal_zero]
    decide
  · have hpos := Nat.pos_of_ne_zero hm
    rw [decimal_of_pos hpos]
    exact lt_trans (Decimal.coefficient_ofFloat_lt (isCanonical_of_ofFloat h).1 hpos _) (by decide)

/-- **A float is read as its digits, times or by a power of ten.** -/
theorem numeral?_float (h : ofFloat x = .finite isNegative m q) :
    (float x).numeral? = some (match rereadSize? x with
      | none => .tooGreat
      | some y => .real (if isNegative then -y else y)) := by
  obtain ⟨hc, hq⟩ := isCanonical_of_ofFloat h
  have hmagnitude : (ofDecimal isNegative (ofFloat x).decimal).magnitude? = rereadSize? x := by
    refine magnitude?_ofDecimal (Decimal.coefficient_written_lt (coefficient_decimal_lt h)) ?_
    rw [h]
    exact natAbs_first_decimal_lt hc hq
  rw [float_eq h, numeral?, ofText_text (isWritten_ofDecimal_decimal h), numeral]
  simp only [isWhole_ofDecimal, Bool.false_eq_true, if_false]
  cases hreread : rereadSize? x <;> simp only [real, hmagnitude, hreread, isNegative_ofDecimal]

/-! ## Floats that are read as they are written -/

/-- **A finite float is read as it is written just when its size is.** -/
theorem real_eq_iff (h : ofFloat x = .finite isNegative m q) (y : Float) :
    (if isNegative then -y else y) = x ↔ y = x.abs := by
  have habs := ofFloat_abs h
  constructor
  · intro heq
    have hy : ofFloat y = .finite false m q := by
      cases isNegative with
      | false =>
        have heq : y = x := heq
        exact heq ▸ h
      | true =>
        have heq : -y = x := heq
        exact ofFloat_of_neg (heq ▸ h)
    exact eq_of_ofFloat hy habs
  · rintro rfl
    cases isNegative with
    | false => exact eq_of_ofFloat habs h
    | true => exact eq_of_ofFloat (ofFloat_neg habs) h

/-! ## Powers of ten -/

theorem scale?_of_nonneg (x : Float) {e : ℤ} (he : 0 ≤ e) (hle : e.natAbs ≤ 308) :
    scale? x e =
      if (x * powerOfTen e.natAbs).isInf then none else some (x * powerOfTen e.natAbs) := by
  rw [scale?, if_pos hle, if_pos he]

theorem scale?_of_neg (x : Float) {e : ℤ} (he : e < 0) (hle : e.natAbs ≤ 308) :
    scale? x e = some (x / powerOfTen e.natAbs) := by
  rw [scale?, if_pos hle, if_neg (by omega)]

/-- A quotient is never too great. -/
theorem isSome_scale?_of_neg (x : Float) {e : ℤ} (he : e < 0) : (scale? x e).isSome := by
  fun_induction scale? x e with
  | case1 x e _ hnonneg => omega
  | case2 x e _ hnonneg => omega
  | case3 x e => rfl
  | case4 x e => rfl
  | case5 x e _ _ hnonneg => omega
  | case6 x e hlarge _ _ ih =>
    exact ih (by omega)

variable {d : Decimal}

/-- **A decimal of few digits is read as the float that it rounds to.** -/
theorem scaled?_of_few_digits (hpos : 0 < d.coefficient) (hlt : d.coefficient < 2 ^ 53)
    (he : d.exponent.natAbs ≤ 22) (hc : IsCanonical m q) (hq : q ≤ 971)
    (hd : RoundsTo m q d.value) :
    ∃ y, d.scaled? = some y ∧ ofFloat y = .finite false m q := by
  obtain ⟨m₁, q₁, h₁, hvalue₁, hnormal⟩ := exists_ofFloat_ofNat hpos hlt
  obtain ⟨m₂, q₂, h₂, hvalue₂⟩ := exists_ofFloat_powerOfTen he
  have hm₁ : 0 < m₁ := lt_of_lt_of_le (by decide) hnormal
  have hm₂ : 0 < m₂ := by
    refine Nat.pos_of_ne_zero fun hzero => ?_
    rw [hzero, Nat.cast_zero, zero_mul] at hvalue₂
    exact absurd hvalue₂ (by positivity)
  rw [Decimal.scaled?]
  rcases le_or_gt 0 d.exponent with hsign | hsign
  · have hrounds := rounds_mul h₁ h₂ hnormal hm₂
    rw [hvalue₁, hvalue₂, ← Decimal.value_of_nonneg hsign] at hrounds
    have hparts := hrounds.ofFloat_eq hd hc hq
    rw [scale?_of_nonneg _ hsign (by omega), isInf_eq_false hparts]
    exact ⟨_, rfl, hparts⟩
  · have hrounds := rounds_div h₁ h₂ hm₁ hm₂
    rw [hvalue₁, hvalue₂, ← Decimal.value_of_neg hsign] at hrounds
    rw [scale?_of_neg _ hsign (by omega)]
    exact ⟨_, rfl, hrounds.ofFloat_eq hd hc hq⟩

theorem roundsTo_decimal (hc : IsCanonical m q) (hm : 0 < m) :
    RoundsTo m q (finite isNegative m q).decimal.written.value := by
  rw [Decimal.value_written, decimal_of_pos hm]
  exact Decimal.roundsTo_ofFloat hc hm .toEven

theorem coefficient_written_pos (hc : IsCanonical m q) (hm : 0 < m) :
    0 < (finite isNegative m q).decimal.written.coefficient := by
  have hpos := Decimal.coefficient_ofFloat_pos hc hm .toEven
  rw [decimal_of_pos hm, Decimal.written]
  split
  · exact Nat.mul_pos hpos (by positivity)
  · exact hpos

theorem ofFloat_zero : ofFloat (.ofNat 0 / powerOfTen 1) = .finite false 0 leastExponent := by
  decide +kernel

/-- **A float of few digits is read as it is written.** -/
theorem rereadSize?_of_few_digits (h : ofFloat x = .finite isNegative m q)
    (hlt : (ofFloat x).decimal.written.coefficient < 2 ^ 53)
    (he : (ofFloat x).decimal.written.exponent.natAbs ≤ 22) : rereadSize? x = some x.abs := by
  obtain ⟨hc, hq⟩ := isCanonical_of_ofFloat h
  have habs := ofFloat_abs h
  rw [rereadSize?, h] at *
  by_cases hm : m = 0
  · subst hm
    obtain rfl : q = leastExponent := hc.normal.resolve_left (by decide)
    have hzero := eq_of_ofFloat habs ofFloat_zero
    have hwritten : (⟨0, 0⟩ : Decimal).written = ⟨0, -1⟩ := by decide
    rw [hzero, decimal_zero, hwritten]
    exact scale?_of_neg (.ofNat 0) (by decide : (-1 : ℤ) < 0) (by decide)
  · have hpos := Nat.pos_of_ne_zero hm
    obtain ⟨y, hscaled, hy⟩ := scaled?_of_few_digits (coefficient_written_pos hc hpos) hlt he hc hq
      (roundsTo_decimal hc hpos)
    rw [hscaled, eq_of_ofFloat hy habs]

/-! ## No float is too great -/

/-- The float that a number from one on rounds to is greater by one part in 2^53 at most. -/
theorem le_of_roundsTo {v : ℚ} (hv : RoundsTo m q v) (hm : Decimal.fractionCount ≤ m) :
    m * 2 ^ q * (1 - 1 / (2 * Decimal.fractionCount)) ≤ v := by
  have hm : (Decimal.fractionCount : ℚ) ≤ m := by exact_mod_cast hm
  have hfraction : (0 : ℚ) < 2 * Decimal.fractionCount := by norm_num [Decimal.fractionCount]
  have hstep : (1 / 2 : ℚ) ≤ m / (2 * Decimal.fractionCount) := by
    rw [le_div_iff₀ hfraction]
    linarith
  have hgap := halfGap_le m q
  refine le_trans ?_ hv.low
  calc (m * 2 ^ q * (1 - 1 / (2 * Decimal.fractionCount)) : ℚ)
    _ = (m - m / (2 * Decimal.fractionCount)) * 2 ^ q := by ring
    _ ≤ (m - halfGap m q) * 2 ^ q := mul_le_mul_of_nonneg_right (by linarith) (two_zpow_pos q).le

/-- Rounding the digits and the power of ten does not make a number too great that is a little
below the greatest float. -/
theorem mul_lt_overflow {m₁ m₂ : ℕ} {q₁ q₂ : ℤ} {v₁ v₂ : ℚ} (h₁ : RoundsTo m₁ q₁ v₁)
    (hm₁ : Decimal.fractionCount ≤ m₁) (h₂ : RoundsTo m₂ q₂ v₂) (hm₂ : Decimal.fractionCount ≤ m₂)
    (hv : v₁ * v₂ ≤ (2 * Decimal.fractionCount - 7 / 2) * 2 ^ (971 : ℤ)) :
    m₁ * 2 ^ q₁ * (m₂ * 2 ^ q₂) < overflow := by
  have hle₁ := le_of_roundsTo h₁ hm₁
  have hle₂ := le_of_roundsTo h₂ hm₂
  have hconst : (2 * Decimal.fractionCount - 7 / 2 : ℚ) <
      (2 * Decimal.fractionCount - 1 / 2) * (1 - 1 / (2 * Decimal.fractionCount)) ^ 2 := by
    norm_num [Decimal.fractionCount]
  have hu : (0 : ℚ) < 1 - 1 / (2 * Decimal.fractionCount) := by norm_num [Decimal.fractionCount]
  have hp := two_zpow_pos 971
  rw [overflow]
  generalize (1 - 1 / (2 * Decimal.fractionCount) : ℚ) = u at *
  generalize (2 : ℚ) ^ (971 : ℤ) = p at *
  have hpos₁ : 0 < m₁ * (2 : ℚ) ^ q₁ * u := by
    have : 0 < m₁ := lt_of_lt_of_le (by decide) hm₁
    positivity
  have hprod : m₁ * 2 ^ q₁ * (m₂ * 2 ^ q₂) * u ^ 2 ≤ v₁ * v₂ :=
    calc m₁ * 2 ^ q₁ * (m₂ * 2 ^ q₂) * u ^ 2
      _ = (m₁ * 2 ^ q₁ * u) * (m₂ * 2 ^ q₂ * u) := by ring
      _ ≤ v₁ * v₂ := mul_le_mul hle₁ hle₂ (by positivity) (hpos₁.le.trans hle₁)
  refine lt_of_mul_lt_mul_right ?_ (sq_nonneg u)
  calc m₁ * 2 ^ q₁ * (m₂ * 2 ^ q₂) * u ^ 2
    _ ≤ (2 * Decimal.fractionCount - 7 / 2) * p := hprod.trans hv
    _ < (2 * Decimal.fractionCount - 1 / 2) * u ^ 2 * p := mul_lt_mul_of_pos_right hconst hp
    _ = (2 * Decimal.fractionCount - 1 / 2) * p * u ^ 2 := by ring

/-- The three greatest floats are read as floats. -/
theorem greatest_decimals_are_not_too_great : ∀ i < 3,
    let d := Decimal.ofFloat (2 * Decimal.fractionCount - 1 - i) 971 .toEven
    0 ≤ d.exponent ∧ d.exponent.natAbs ≤ 308 ∧
      (Float.ofNat d.coefficient * powerOfTen d.exponent.natAbs).isInf = false := by
  decide +kernel

/-- What rounds to another float is not near the greatest one. -/
theorem le_of_not_greatest {v : ℚ} (hv : RoundsTo m q v) (hc : IsCanonical m q) (hq : q ≤ 971)
    (hgreatest : q = 971 → m + 4 ≤ 2 * Decimal.fractionCount) :
    v ≤ (2 * Decimal.fractionCount - 7 / 2) * 2 ^ (971 : ℤ) := by
  have hp := two_zpow_pos 971
  refine hv.high.trans ?_
  rcases lt_or_eq_of_le hq with hlt | rfl
  · have hm : (m : ℚ) + 1 ≤ 2 * Decimal.fractionCount := by exact_mod_cast hc.lt
    have hhalf : 2 * (2 : ℚ) ^ q ≤ 2 ^ (971 : ℤ) := by
      rw [mul_comm, ← zpow_add_one₀ (by norm_num)]
      exact zpow_le_zpow_right₀ (by norm_num) hlt
    have hconst : (Decimal.fractionCount : ℚ) ≤ 2 * Decimal.fractionCount - 7 / 2 := by
      norm_num [Decimal.fractionCount]
    calc ((m + 1 / 2) * 2 ^ q : ℚ)
      _ ≤ (2 * Decimal.fractionCount) * 2 ^ q :=
        mul_le_mul_of_nonneg_right (by linarith) (two_zpow_pos q).le
      _ = Decimal.fractionCount * (2 * 2 ^ q) := by ring
      _ ≤ Decimal.fractionCount * 2 ^ (971 : ℤ) :=
        mul_le_mul_of_nonneg_left hhalf (Nat.cast_nonneg _)
      _ ≤ (2 * Decimal.fractionCount - 7 / 2) * 2 ^ (971 : ℤ) :=
        mul_le_mul_of_nonneg_right hconst hp.le
  · have hm : (m : ℚ) + 4 ≤ 2 * Decimal.fractionCount := by exact_mod_cast hgreatest rfl
    exact mul_le_mul_of_nonneg_right (by linarith) hp.le

theorem exponent_le_of_roundsTo (hpos : 0 < d.coefficient) (hc : IsCanonical m q)
    (hq : q ≤ 971) (hd : RoundsTo m q d.value) : d.exponent ≤ 308 := by
  have hm : (m : ℚ) + 1 ≤ 2 * Decimal.fractionCount := by exact_mod_cast hc.lt
  have hone : (1 : ℚ) ≤ d.coefficient := by exact_mod_cast hpos
  have hten : (10 : ℚ) ^ d.exponent < 10 ^ (309 : ℤ) :=
    calc (10 : ℚ) ^ d.exponent
      _ ≤ d.coefficient * 10 ^ d.exponent :=
        le_mul_of_one_le_left (Decimal.ten_zpow_pos _).le hone
      _ ≤ (m + 1 / 2) * 2 ^ q := hd.high
      _ ≤ (2 * Decimal.fractionCount) * 2 ^ (971 : ℤ) :=
        mul_le_mul (by linarith) (zpow_le_zpow_right₀ (by norm_num) hq) (two_zpow_pos q).le
          (by positivity)
      _ < 10 ^ (309 : ℤ) := by
        have hpowers : 2 * Decimal.fractionCount * 2 ^ 971 < 10 ^ 309 := by decide +kernel
        exact_mod_cast hpowers
  have := (zpow_lt_zpow_iff_right₀ (by norm_num : (1 : ℚ) < 10)).1 hten
  omega

/-- A decimal that is not near the greatest float is not read as infinite. -/
theorem isInf_mul_powerOfTen (hpos : 0 < d.coefficient) (hlimit : d.coefficient ≤ 10 ^ 20)
    (he : 0 ≤ d.exponent) (hle : d.exponent.natAbs ≤ 308)
    (hd : d.value ≤ (2 * Decimal.fractionCount - 7 / 2) * 2 ^ (971 : ℤ)) :
    (Float.ofNat d.coefficient * powerOfTen d.exponent.natAbs).isInf = false := by
  have hone : (1 : ℚ) ≤ d.coefficient := by exact_mod_cast hpos
  have hten : (10 ^ d.exponent.natAbs : ℚ) < overflow := by
    have hlt := natCast_lt_overflow hle le_rfl
    exact_mod_cast hlt
  obtain ⟨m₁, q₁, hparts₁, hv₁⟩ :=
    (rounds_ofNat hpos).exists_ofFloat (natCast_lt_overflow (by decide) hlimit)
  obtain ⟨m₂, q₂, hparts₂, hv₂⟩ := (rounds_powerOfTen hle).exists_ofFloat hten
  have hm₁ := fractionCount_le (isCanonical_of_ofFloat hparts₁).1 hv₁ hone
  have hm₂ := fractionCount_le (isCanonical_of_ofFloat hparts₂).1 hv₂ (one_le_pow₀ (by norm_num))
  have hlt := mul_lt_overflow hv₁ hm₁ hv₂ hm₂ (Decimal.value_of_nonneg he ▸ hd)
  have hrounds := rounds_mul hparts₁ hparts₂ hm₁ (lt_of_lt_of_le (by decide) hm₂)
  obtain ⟨m, q, hparts, -⟩ := hrounds.exists_ofFloat hlt
  exact isInf_eq_false hparts

theorem written_of_nonneg (h : 0 ≤ d.written.exponent) : d.written = d := by
  by_cases hwhole : d.IsWhole
  · rw [Decimal.written, if_pos hwhole] at h
    have hsign : (0 : ℤ) ≤ -1 := h
    exact absurd hsign (by decide)
  · exact if_neg hwhole

theorem isSome_scaled?_ofFloat (hc : IsCanonical m q) (hq : q ≤ 971) (hm : 0 < m)
    (he : 0 ≤ (Decimal.ofFloat m q .toEven).exponent) :
    ((Decimal.ofFloat m q .toEven).scaled?).isSome := by
  rw [Decimal.scaled?]
  suffices h : (Decimal.ofFloat m q .toEven).exponent.natAbs ≤ 308 ∧
      (Float.ofNat (Decimal.ofFloat m q .toEven).coefficient *
        powerOfTen (Decimal.ofFloat m q .toEven).exponent.natAbs).isInf = false by
    rw [scale?_of_nonneg _ he h.1, h.2]
    rfl
  by_cases hgreatest : q = 971 → m + 4 ≤ 2 * Decimal.fractionCount
  · have hpos := Decimal.coefficient_ofFloat_pos hc hm .toEven
    have hrounds := Decimal.roundsTo_ofFloat hc hm .toEven
    have hlimit : (Decimal.ofFloat m q .toEven).coefficient ≤ 10 ^ 20 :=
      le_trans (Decimal.coefficient_ofFloat_lt hc hm .toEven).le (by decide)
    have hexponent := exponent_le_of_roundsTo hpos hc hq hrounds
    refine ⟨by omega, ?_⟩
    exact isInf_mul_powerOfTen hpos hlimit he (by omega)
      (le_of_not_greatest hrounds hc hq hgreatest)
  · rw [Classical.not_imp, not_le] at hgreatest
    obtain ⟨rfl, hgreatest⟩ := hgreatest
    have hlt := hc.lt
    obtain ⟨i, hi, rfl⟩ : ∃ i < 3, m = 2 * Decimal.fractionCount - 1 - i :=
      ⟨2 * Decimal.fractionCount - 1 - m, by omega, by omega⟩
    exact (greatest_decimals_are_not_too_great i hi).2

/-- **No finite float is written as a number too great.** -/
theorem isSome_rereadSize? (h : ofFloat x = .finite isNegative m q) : (rereadSize? x).isSome := by
  obtain ⟨hc, hq⟩ := isCanonical_of_ofFloat h
  rw [rereadSize?, h]
  rcases lt_or_ge (finite isNegative m q).decimal.written.exponent 0 with he | he
  · exact isSome_scale?_of_neg _ he
  · have hm : 0 < m := by
      refine Nat.pos_of_ne_zero fun hzero => ?_
      rw [hzero, decimal_zero] at he
      exact absurd he (by decide)
    have hwritten := written_of_nonneg he
    rw [hwritten, decimal_of_pos hm] at he ⊢
    exact isSome_scaled?_ofFloat hc hq hm he

end Json
end MarkupPad
