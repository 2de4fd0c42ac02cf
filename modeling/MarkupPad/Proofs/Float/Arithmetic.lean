import MarkupPad.Json.Number
import MarkupPad.Proofs.Float.Parts

/-!
# Products, quotients and powers of ten

The results of these operations are the floats that the exact results round to.  Whole numbers of
53 bits and the first powers of ten are not rounded at all.

    Rounds (x * y) (product of the values)                                       (rounds_mul)
    Rounds (x / y) (quotient of the values)                                      (rounds_div)
    Rounds (.ofNat n) n                                                        (rounds_ofNat)
    Rounds (powerOfTen k) (10 ^ k)   if k ≤ 308                           (rounds_powerOfTen)
-/

namespace MarkupPad.FloatParts

open Float.Model Float.Model.UnpackedFloat Decimal

/-- The float is the one that a number rounds to, or infinite when that is too great. -/
def Rounds (x : Float) (v : ℚ) : Prop :=
  ∃ m q, x = .ofModel (.pack (ofParts .positive m q)) ∧ IsCanonical m q ∧ RoundsTo m q v

/-- A float is rounded to once the number is known to round to it. -/
theorem Rounds.ofFloat_eq {x : Float} {v : ℚ} {m : ℕ} {q : ℤ} (h : Rounds x v)
    (hv : RoundsTo m q v) (hc : IsCanonical m q) (hq : q ≤ 971) :
    ofFloat x = .finite false m q := by
  obtain ⟨m', q', rfl, hc', hv'⟩ := h
  obtain ⟨rfl, rfl⟩ := hv'.unique hc' hv hc
  exact ofFloat_pack .positive hc hq

/-- A float rounds to itself. -/
theorem rounds_of_ofFloat {x : Float} {m : ℕ} {q : ℤ} (h : ofFloat x = .finite false m q) :
    Rounds x (m * 2 ^ q) := by
  obtain ⟨hc, hq⟩ := isCanonical_of_ofFloat h
  exact ⟨m, q, eq_of_ofFloat h (ofFloat_pack .positive hc hq), hc, roundsTo_self m q⟩

/-- Numbers below this do not become infinite. -/
def overflow : ℚ := (2 * fractionCount - 1 / 2) * 2 ^ (971 : ℤ)

theorem natCast_lt_overflow {n k : ℕ} (hk : k ≤ 308) (hn : n ≤ 10 ^ k) : (n : ℚ) < overflow := by
  have hten : ∀ k ≤ 308, 2 * 10 ^ k < (4 * fractionCount - 1) * 2 ^ 971 := by decide +kernel
  have hlt : 2 * n < (4 * fractionCount - 1) * 2 ^ 971 :=
    lt_of_le_of_lt (Nat.mul_le_mul_left 2 hn) (hten k hk)
  have hlt : (2 * n : ℚ) < (4 * fractionCount - 1 : ℕ) * 2 ^ 971 := by exact_mod_cast hlt
  have hcast : ((4 * fractionCount - 1 : ℕ) : ℚ) = 4 * fractionCount - 1 := by
    norm_num [fractionCount]
  rw [hcast] at hlt
  rw [overflow, zpow_ofNat]
  generalize (2 : ℚ) ^ 971 = p at hlt ⊢
  linarith

theorem exponent_le_of_lt_overflow {v : ℚ} {m : ℕ} {q : ℤ} (hv : RoundsTo m q v)
    (hc : IsCanonical m q) (hlt : v < overflow) : q ≤ 971 := by
  by_contra hq
  have hnormal : fractionCount ≤ m := by
    refine hc.normal.resolve_right ?_
    rw [leastExponent]
    omega
  have hexponent : (2 : ℚ) ^ (972 : ℤ) ≤ 2 ^ q := zpow_le_zpow_right₀ (by norm_num) (by omega)
  have hleast : leastExponent < q := by
    rw [leastExponent]
    omega
  have hlow := sub_halfGap_le hnormal hleast
  have hpos : (0 : ℚ) ≤ fractionCount - 1 / 4 := by norm_num [fractionCount]
  have hbound : overflow ≤ (m - halfGap m q) * 2 ^ q :=
    calc overflow
      _ = (fractionCount - 1 / 4) * 2 ^ (972 : ℤ) := by
        rw [overflow, show (972 : ℤ) = 971 + 1 from rfl, zpow_add_one₀ (by norm_num)]
        ring
      _ ≤ (m - halfGap m q) * 2 ^ q :=
        mul_le_mul hlow hexponent (by positivity) (le_trans hpos hlow)
  linarith [hv.low]

theorem Rounds.exists_ofFloat {x : Float} {v : ℚ} (h : Rounds x v) (hlt : v < overflow) :
    ∃ m q, ofFloat x = .finite false m q ∧ RoundsTo m q v := by
  obtain ⟨m, q, rfl, hc, hv⟩ := h
  exact ⟨m, q, ofFloat_pack .positive hc (exponent_le_of_lt_overflow hv hc hlt), hv⟩

/-! ## Unpacked floats -/

section
variable {m₁ m₂ : ℕ} {q₁ q₂ : ℤ}

theorem mul_ofParts (h₁ : 0 < m₁) (h₂ : 0 < m₂) :
    UnpackedFloat.mul Format.binary64 (ofParts .positive m₁ q₁) (ofParts .positive m₂ q₂) =
      roundWithAccuracy Format.binary64 .positive (m₁ * m₂) (q₁ + q₂) .exact := by
  rw [ofParts, ofParts, dif_neg h₁.ne', dif_neg h₂.ne']
  rfl

/-- A mantissa of 53 bits and more is as fine as the floats around it. -/
theorem le_target {m : ℕ} {q : ℤ} (hm : fractionCount ≤ m) : q ≤ target m q := by
  have hlog : 52 ≤ m.log2 := (Nat.le_log2 (by unfold fractionCount at hm; omega)).2 hm
  have htarget := target_eq m q
  omega

/-- A product is rounded once. -/
theorem mul_spec (q₁ q₂ : ℤ) (h₁ : fractionCount ≤ m₁) (h₂ : 0 < m₂) :
    ∃ m q, UnpackedFloat.mul Format.binary64 (ofParts .positive m₁ q₁) (ofParts .positive m₂ q₂) =
      ofParts .positive m q ∧ IsCanonical m q ∧ RoundsTo m q (m₁ * 2 ^ q₁ * (m₂ * 2 ^ q₂)) := by
  rw [mul_ofParts (lt_of_lt_of_le (by decide) h₁) h₂]
  have hfine : q₁ + q₂ ≤ target (m₁ * m₂) (q₁ + q₂) :=
    le_target (le_trans h₁ (Nat.le_mul_of_pos_right m₁ h₂))
  refine roundWithAccuracy_spec .positive ?_ hfine
  have hvalue : (m₁ * 2 ^ q₁ * (m₂ * 2 ^ q₂) : ℚ) / 2 ^ (q₁ + q₂) = (m₁ * m₂ : ℕ) := by
    rw [mul_mul_mul_comm, ← zpow_add₀ (by norm_num), mul_div_cancel_right₀ _ (two_zpow_pos _).ne',
      Nat.cast_mul]
  rw [hvalue]
  exact represents_exact _

/-! ## Quotients -/

/-- What a part of a step says about a number. -/
theorem represents_of_fraction (m : ℕ) {r d : ℕ} (hd : 0 < d) (hr : r < d) :
    Represents (ExtendedMantissa.ofMantissaAndAccuracy m (accuracyOfFraction r d)) (m + r / d) := by
  have hd : (0 : ℚ) < d := by exact_mod_cast hd
  have hr : (r : ℚ) / d < 1 := by
    rw [div_lt_one hd]
    exact_mod_cast hr
  unfold accuracyOfFraction
  split
  · next hzero => simp [hzero, Represents, ExtendedMantissa.ofMantissaAndAccuracy]
  · next hzero =>
    have hpos : (0 : ℚ) < r / d := div_pos (by exact_mod_cast Nat.pos_of_ne_zero hzero) hd
    cases hcompare : compare (2 * r) d with
    | lt =>
      have hlt : (2 * r : ℚ) < d := by exact_mod_cast Nat.compare_eq_lt.1 hcompare
      have hhalf : (r : ℚ) / d < 1 / 2 := by
        rw [div_lt_iff₀ hd]
        linarith
      exact ⟨lt_add_of_pos_right _ hpos, (add_lt_add_iff_left _).2 hhalf⟩
    | eq =>
      have heq : (2 * r : ℚ) = d := by exact_mod_cast Nat.compare_eq_eq.1 hcompare
      have hhalf : (r : ℚ) / d = 1 / 2 := by
        rw [div_eq_iff hd.ne']
        linarith
      rw [hhalf]
      rfl
    | gt =>
      have hgt : (d : ℚ) < 2 * r := by exact_mod_cast Nat.compare_eq_gt.1 hcompare
      have hhalf : 1 / 2 < (r : ℚ) / d := by
        rw [lt_div_iff₀ hd]
        linarith
      exact ⟨(add_lt_add_iff_left _).2 hhalf, (add_lt_add_iff_left _).2 hr⟩

/-- What a remainder says about the quotient. -/
theorem represents_div (n : ℕ) {d : ℕ} (hd : 0 < d) :
    Represents (ExtendedMantissa.ofMantissaAndAccuracy (n / d) (accuracyOfFraction (n % d) d))
      (n / d) := by
  have hvalue : (n : ℚ) / d = (n / d : ℕ) + (n % d : ℕ) / d := by
    have hd : (d : ℚ) ≠ 0 := by exact_mod_cast hd.ne'
    rw [div_eq_iff hd, add_mul, div_mul_cancel₀ _ hd]
    exact_mod_cast (Nat.div_add_mod' n d).symm
  rw [hvalue]
  exact represents_of_fraction _ hd (Nat.mod_lt n hd)

theorem log2_mul_pow {n : ℕ} (hn : n ≠ 0) (k : ℕ) : (n * 2 ^ k).log2 = n.log2 + k := by
  have hpos : 0 < 2 ^ k := by positivity
  rw [Nat.log2_eq_iff (Nat.mul_ne_zero hn hpos.ne'), show n.log2 + k + 1 = n.log2 + 1 + k by ring,
    pow_add, pow_add 2 (n.log2 + 1)]
  exact ⟨Nat.mul_le_mul_right _ (Nat.log2_self_le hn),
    Nat.mul_lt_mul_of_pos_right Nat.lt_log2_self hpos⟩

/-- A quotient has as many bits as the dividend is longer than the divisor, but for one. -/
theorem log2_div_add_one (n : ℕ) {d : ℕ} (hd : 0 < d) : n.log2 ≤ (n / d).log2 + 1 + d.log2 := by
  by_cases hn : n = 0
  · simp [hn]
  · have hq : n / d < 2 ^ ((n / d).log2 + 1) := Nat.lt_log2_self
    have hdlt : d < 2 ^ (d.log2 + 1) := Nat.lt_log2_self
    have hlt : n < 2 ^ ((n / d).log2 + 1 + (d.log2 + 1)) := by
      rw [pow_add]
      calc n
        _ < (n / d + 1) * d := by
          rw [Nat.add_mul, Nat.one_mul]
          exact Nat.lt_div_mul_add hd
        _ ≤ 2 ^ ((n / d).log2 + 1) * 2 ^ (d.log2 + 1) := Nat.mul_le_mul hq hdlt.le
    have := (Nat.log2_lt hn).2 hlt
    omega

theorem div_ofParts (h₁ : 0 < m₁) (h₂ : 0 < m₂) :
    UnpackedFloat.div Format.binary64 (ofParts .positive m₁ q₁) (ofParts .positive m₂ q₂) =
      let (m, q, accuracy) := divCore Format.binary64 m₁ q₁ m₂ q₂
      roundWithAccuracy Format.binary64 .positive m q accuracy := by
  rw [ofParts, ofParts, dif_neg h₁.ne', dif_neg h₂.ne']
  rfl

/-- A quotient is rounded once. -/
theorem div_spec (q₁ q₂ : ℤ) (h₁ : 0 < m₁) (h₂ : 0 < m₂) :
    ∃ m q, UnpackedFloat.div Format.binary64 (ofParts .positive m₁ q₁) (ofParts .positive m₂ q₂) =
      ofParts .positive m q ∧ IsCanonical m q ∧ RoundsTo m q (m₁ * 2 ^ q₁ / (m₂ * 2 ^ q₂)) := by
  rw [div_ofParts h₁ h₂, divCore]
  simp only
  -- the exponent of the quotient, and the dividend with zeros behind it
  set e := min (q₁ - q₂)
    (Format.binary64.targetExponent (totalExponent m₁ q₁ - totalExponent m₂ q₂)) with he
  set n := m₁ <<< (q₁ - q₂ - e).toNat with hn
  have hshift : n = m₁ * 2 ^ (q₁ - q₂ - e).toNat := Nat.shiftLeft_eq _ _
  have hexponent : ((q₁ - q₂ - e).toNat : ℤ) = q₁ - q₂ - e := by omega
  have hfine : e ≤ target (n / m₂) e := by
    have hlog : n.log2 = m₁.log2 + (q₁ - q₂ - e).toNat := by
      rw [hshift, log2_mul_pow h₁.ne']
    have hquotient := log2_div_add_one n h₂
    have htarget := target_eq (n / m₂) e
    simp only [Format.targetExponent, totalExponent, Format.mantissaBits, Format.minExponent] at he
    rw [leastExponent] at htarget
    omega
  refine roundWithAccuracy_spec .positive ?_ hfine
  have hvalue : (m₁ * 2 ^ q₁ / (m₂ * 2 ^ q₂) : ℚ) / 2 ^ e = n / m₂ := by
    rw [hshift, Nat.cast_mul, Nat.cast_pow, Nat.cast_ofNat, ← zpow_natCast, hexponent,
      zpow_sub₀ (by norm_num), zpow_sub₀ (by norm_num)]
    ring
  rw [hvalue]
  exact represents_div n h₂

end

/-! ## Numbers in two and ten -/

/-- A number with zeros behind it is rounded once. -/
theorem round_spec {m : ℕ} (hm : 0 < m) (q : ℤ) :
    ∃ m' q', UnpackedFloat.round Format.binary64 .positive m q = ofParts .positive m' q' ∧
      IsCanonical m' q' ∧ RoundsTo m' q' (m * 2 ^ q) := by
  change ∃ m' q', roundWithAccuracy Format.binary64 .positive (m <<< (q - target m q).toNat)
    (q - ((q - target m q).toNat : ℤ)) .exact = _ ∧ _
  have htarget := target_eq m q
  generalize hk : (q - target m q).toNat = k
  have hlog := log2_mul_pow hm.ne' k
  have hfine : q - (k : ℤ) ≤ target (m <<< k) (q - k) := by
    rw [Nat.shiftLeft_eq, target_eq, hlog]
    omega
  refine roundWithAccuracy_spec .positive ?_ hfine
  have hvalue : (m * 2 ^ q : ℚ) / 2 ^ (q - (k : ℤ)) = (m <<< k : ℕ) := by
    rw [mul_div_assoc, ← zpow_sub₀ (by norm_num), sub_sub_cancel, zpow_natCast, Nat.shiftLeft_eq]
    push_cast
    rfl
  rw [hvalue]
  exact represents_exact _

/-- So is a number with tens behind it. -/
theorem ofScientific_spec {n k : ℕ} (hn : 0 < n) (hk : k ≤ 2048) :
    ∃ m q, UnpackedFloat.ofScientific Format.binary64 n k = ofParts .positive m q ∧
      IsCanonical m q ∧ RoundsTo m q (n * 10 ^ k) := by
  have hlong : fractionCount ≤ n <<< 53 := by
    rw [Nat.shiftLeft_eq]
    exact le_trans (by decide) (Nat.le_mul_of_pos_left (2 ^ 53) hn)
  have hten : 0 < 10 ^ k := by positivity
  obtain ⟨m, q, hmul, hc, hv⟩ := mul_spec (-53) 0 hlong hten
  have hvalue :
      ((n <<< 53 : ℕ) * 2 ^ (-53 : ℤ) * ((10 ^ k : ℕ) * 2 ^ (0 : ℤ)) : ℚ) = n * 10 ^ k := by
    rw [Nat.shiftLeft_eq]
    push_cast
    rw [mul_one, mul_assoc (n : ℚ)]
    norm_num
  refine ⟨m, q, ?_, hc, hvalue ▸ hv⟩
  rw [← hmul, ofParts, ofParts, dif_neg (by omega), dif_neg hten.ne']
  have hhigh : ¬ ((k : ℤ) > 2 ^ Format.binary64.exponentBits) := by
    change ¬ ((k : ℤ) > 2048)
    omega
  have hlow : ¬ ((k : ℤ) < -((2 ^ Format.binary64.exponentBits : ℤ) + n.log2)) := by
    change ¬ ((k : ℤ) < -(2048 + n.log2))
    omega
  rw [UnpackedFloat.ofScientific, dif_neg hn.ne', if_neg hhigh, if_neg hlow, if_pos (by omega)]
  rfl

/-! ## Floats -/

variable {x y : Float} {m₁ m₂ : ℕ} {q₁ q₂ : ℤ}

theorem rounds_mul (hx : ofFloat x = .finite false m₁ q₁) (hy : ofFloat y = .finite false m₂ q₂)
    (h₁ : fractionCount ≤ m₁) (h₂ : 0 < m₂) : Rounds (x * y) (m₁ * 2 ^ q₁ * (m₂ * 2 ^ q₂)) := by
  obtain ⟨m, q, hmul, hv⟩ := mul_spec q₁ q₂ h₁ h₂
  refine ⟨m, q, ?_, hv⟩
  change Float.ofModel
    (.pack (UnpackedFloat.mul Format.binary64 x.toModel.unpack y.toModel.unpack)) = _
  rw [unpack_eq hx, unpack_eq hy]
  exact congrArg (fun u => Float.ofModel (.pack u)) hmul

theorem rounds_div (hx : ofFloat x = .finite false m₁ q₁) (hy : ofFloat y = .finite false m₂ q₂)
    (h₁ : 0 < m₁) (h₂ : 0 < m₂) : Rounds (x / y) (m₁ * 2 ^ q₁ / (m₂ * 2 ^ q₂)) := by
  obtain ⟨m, q, hdiv, hv⟩ := div_spec q₁ q₂ h₁ h₂
  refine ⟨m, q, ?_, hv⟩
  change Float.ofModel
    (.pack (UnpackedFloat.div Format.binary64 x.toModel.unpack y.toModel.unpack)) = _
  rw [unpack_eq hx, unpack_eq hy]
  exact congrArg (fun u => Float.ofModel (.pack u)) hdiv

/-- A word is rounded once. -/
theorem rounds_toFloat {n : ℕ} (hn : 0 < n) (hlt : n < Word.limit) :
    Rounds n.toUInt64.toFloat n := by
  obtain ⟨m, q, hround, hc, hv⟩ := round_spec hn 0
  rw [zpow_zero, mul_one] at hv
  refine ⟨m, q, ?_, hc, hv⟩
  rw [← hround]
  have hword : n.toUInt64.toNat = n := Nat.mod_eq_of_lt hlt
  have hcompare : compare (n : ℤ) 0 = .gt := Int.compare_eq_gt.2 (by omega)
  change Float.ofModel
    (.pack (UnpackedFloat.normalize Format.binary64 (n.toUInt64.toNat : ℤ) 0 .positive)) = _
  rw [hword, UnpackedFloat.normalize, hcompare]
  rfl

/-- From one on, floats have 53 bits. -/
theorem fractionCount_le {m : ℕ} {q : ℤ} {v : ℚ} (hc : IsCanonical m q) (hv : RoundsTo m q v)
    (hone : 1 ≤ v) : fractionCount ≤ m := by
  refine hc.normal.resolve_right ?_
  rintro rfl
  have hlt : (m : ℚ) + 1 / 2 ≤ 2 * fractionCount := by
    have : (m : ℚ) + 1 ≤ 2 * fractionCount := by exact_mod_cast hc.lt
    linarith
  have hsmall : (2 * fractionCount : ℚ) * 2 ^ leastExponent < 1 := by
    have hpow : (2 * fractionCount : ℚ) = 2 ^ (53 : ℤ) := by norm_num [fractionCount]
    rw [hpow, ← zpow_add₀ (by norm_num)]
    exact zpow_lt_one_of_neg₀ (by norm_num) (by decide)
  have := mul_le_mul_of_nonneg_right hlt (two_zpow_pos leastExponent).le
  linarith [hv.high]

/-- What rounds to a float is rounded as the float is. -/
theorem Rounds.of_roundsTo {m : ℕ} {q : ℤ} {v : ℚ} (h : Rounds x (m * 2 ^ q)) (hc : IsCanonical m q)
    (hv : RoundsTo m q v) : Rounds x v := by
  obtain ⟨m', q', rfl, hc', hv'⟩ := h
  obtain ⟨rfl, rfl⟩ := hv'.unique hc' (roundsTo_self m q) hc
  exact ⟨m', q', rfl, hc, hv⟩

theorem ofFloat_one :
    ofFloat Float.exactlyRepresentablePowersOfTen[0] = .finite false fractionCount (-52) := by
  decide +kernel

/-- **A whole number becomes the float that it rounds to.** -/
theorem rounds_ofNat {n : ℕ} (hn : 0 < n) : Rounds (.ofNat n) n := by
  have hone : (1 : ℚ) ≤ n := by exact_mod_cast hn
  change Rounds (Float.ofScientific n false 0) n
  unfold Float.ofScientific
  split
  · next hsmall =>
    have hlimit : n < Word.limit := lt_trans hsmall.1 (by decide)
    have hlt : (n : ℚ) < overflow :=
      natCast_lt_overflow (by decide : 20 ≤ 308) (le_trans hlimit.le (by decide))
    obtain ⟨m, q, hparts, hv⟩ := (rounds_toFloat hn hlimit).exists_ofFloat hlt
    have hc := (isCanonical_of_ofFloat hparts).1
    have hmul := rounds_mul hparts ofFloat_one (fractionCount_le hc hv hone) (by decide)
    have hvalue : (fractionCount * 2 ^ (-52 : ℤ) : ℚ) = 1 := by norm_num [fractionCount]
    rw [hvalue, mul_one] at hmul
    exact hmul.of_roundsTo hc hv
  · obtain ⟨m, q, hscientific, hc, hv⟩ := ofScientific_spec hn (k := 0) (by decide)
    rw [pow_zero, mul_one] at hv
    exact ⟨m, q, congrArg (fun u => Float.ofModel (.pack u)) hscientific, hc, hv⟩

/-- Whole numbers of 53 bits are floats without being rounded. -/
theorem exists_ofFloat_ofNat {n : ℕ} (hn : 0 < n) (hlt : n < 2 ^ 53) :
    ∃ m q, ofFloat (.ofNat n) = .finite false m q ∧ (m * 2 ^ q : ℚ) = n ∧ fractionCount ≤ m := by
  have hlog : n.log2 < 53 := (Nat.log2_lt hn.ne').2 hlt
  have hk : (n * 2 ^ (52 - n.log2)).log2 = 52 := by
    rw [log2_mul_pow hn.ne']
    omega
  have hle : 52 - n.log2 ≤ 52 := Nat.sub_le _ _
  generalize 52 - n.log2 = k at hk hle
  have hpos : n * 2 ^ k ≠ 0 := by positivity
  obtain ⟨hlow, hhigh⟩ := (Nat.log2_eq_iff hpos).1 hk
  have hvalue : ((n * 2 ^ k : ℕ) * 2 ^ (-(k : ℤ)) : ℚ) = n := by
    rw [zpow_neg, zpow_natCast]
    push_cast
    exact mul_inv_cancel_right₀ (by positivity) _
  have hc : IsCanonical (n * 2 ^ k) (-k) :=
    ⟨hhigh, by rw [leastExponent]; omega, .inl hlow⟩
  have hv := roundsTo_self (n * 2 ^ k) (-k)
  rw [hvalue] at hv
  exact ⟨_, _, (rounds_ofNat hn).ofFloat_eq hv hc (by omega), hvalue, hlow⟩

/-- The powers of ten that are floats. -/
theorem ofFloat_powerOfTen_small : ∀ k < 23,
    ofFloat (Json.Literal.powerOfTen k) =
      .finite false (10 ^ k * 2 ^ 52 / 2 ^ (10 ^ k).log2) ((10 ^ k).log2 - 52) ∧
    2 ^ (10 ^ k).log2 ∣ 10 ^ k * 2 ^ 52 := by
  decide +kernel

/-- They are floats without being rounded. -/
theorem exists_ofFloat_powerOfTen {k : ℕ} (hk : k ≤ 22) :
    ∃ m q, ofFloat (Json.Literal.powerOfTen k) = .finite false m q ∧ (m * 2 ^ q : ℚ) = 10 ^ k := by
  obtain ⟨hparts, hdvd⟩ := ofFloat_powerOfTen_small k (by omega)
  refine ⟨_, _, hparts, ?_⟩
  have hvalue :
      ((10 ^ k * 2 ^ 52 / 2 ^ (10 ^ k).log2 : ℕ) : ℚ) * 2 ^ (10 ^ k).log2 = 10 ^ k * 2 ^ 52 := by
    exact_mod_cast Nat.div_mul_cancel hdvd
  rw [zpow_sub₀ (by norm_num), zpow_natCast, ← mul_div_assoc, hvalue]
  exact mul_div_cancel_right₀ _ (by norm_num)

/-- **A power of ten becomes the float that it rounds to.** -/
theorem rounds_powerOfTen {k : ℕ} (hk : k ≤ 308) : Rounds (Json.Literal.powerOfTen k) (10 ^ k) := by
  by_cases hsmall : k ≤ 22
  · obtain ⟨m, q, hparts, hvalue⟩ := exists_ofFloat_powerOfTen hsmall
    exact hvalue ▸ rounds_of_ofFloat hparts
  · obtain ⟨m, q, hscientific, hc, hv⟩ := ofScientific_spec (n := 1) (k := k) Nat.one_pos (by omega)
    rw [Nat.cast_one, one_mul] at hv
    refine ⟨m, q, ?_, hc, hv⟩
    rw [Json.Literal.powerOfTen, Float.ofScientific, dif_neg (by omega)]
    exact congrArg (fun u => Float.ofModel (.pack u)) hscientific

end MarkupPad.FloatParts
