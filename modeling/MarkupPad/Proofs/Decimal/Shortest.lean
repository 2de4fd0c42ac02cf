import MarkupPad.Proofs.Decimal.Rounding

/-!
# The shortest decimal stands for its float

A grid of eighteen digits has a point in the interval of every float, so that one of the grids
that are tried has one.

    ((ofFloat m q).inUnits k).contains n ↔ RoundsTo m q (n * 10 ^ k)            (contains_iff)
    RoundsTo m q (ofFloat m q tie).value                                     (roundsTo_ofFloat)
-/

namespace MarkupPad.Decimal

open FloatParts

/-- The number that a decimal is. -/
def value (d : Decimal) : ℚ := d.coefficient * 10 ^ d.exponent

theorem value_of_nonneg {d : Decimal} (h : 0 ≤ d.exponent) :
    d.value = d.coefficient * 10 ^ d.exponent.natAbs := by
  rw [value, ← zpow_natCast, Int.natAbs_of_nonneg h]

theorem value_of_neg {d : Decimal} (h : d.exponent < 0) :
    d.value = d.coefficient / 10 ^ d.exponent.natAbs := by
  rw [value, ← zpow_natCast, div_eq_mul_inv, ← zpow_neg, Int.ofNat_natAbs_of_nonpos h.le, neg_neg]

theorem ten_zpow_pos (k : ℤ) : (0 : ℚ) < 10 ^ k := by positivity

/-- A power with an exponent of any sign as a quotient of powers. -/
theorem pow_toNat {b : ℚ} (hb : b ≠ 0) (k : ℤ) : b ^ k.toNat = b ^ k * b ^ (-k).toNat := by
  rw [← zpow_natCast, ← zpow_natCast, ← zpow_add₀ hb]
  congr 1
  omega

/-! ## Digits -/

theorem lt_pow_length_toDigits (n : ℕ) : n < 10 ^ (Nat.toDigits 10 n).length :=
  (Nat.length_toDigits_le_iff (by decide) Nat.length_toDigits_pos).1 (Nat.le_refl _)

theorem pow_length_toDigits_le {n : ℕ} (hn : n ≠ 0) :
    10 ^ ((Nat.toDigits 10 n).length - 1) ≤ n := by
  have hpos := Nat.length_toDigits_pos (b := 10) (n := n)
  by_cases hone : (Nat.toDigits 10 n).length = 1
  · rw [hone]
    exact Nat.pos_of_ne_zero hn
  · have hlength := Nat.length_toDigits_le_iff (b := 10) (n := n)
      (k := (Nat.toDigits 10 n).length - 1) (by decide) (by omega)
    omega

namespace Interval

/-! ## Grids -/

/-- The common denominator of an interval on a grid, relative to the grid. -/
def unit (q k : ℤ) : ℚ := 2 ^ (2 - q).toNat * 10 ^ (-k).toNat

theorem unit_pos (q k : ℤ) : 0 < unit q k := by
  unfold unit
  positivity

theorem cast_point (a : ℕ) (q k : ℤ) :
    ((a * Nat.pow 2 (q - 2).toNat * Nat.pow 10 (-k).toNat : ℕ) : ℚ) =
      a * 2 ^ (q - 2) * unit q k := by
  have hscale := pow_toNat (by norm_num : (2 : ℚ) ≠ 0) (q - 2)
  rw [neg_sub] at hscale
  simp only [Nat.pow_eq, Nat.cast_mul, Nat.cast_pow, Nat.cast_ofNat, hscale, unit]
  ring

theorem cast_denominator (n : ℕ) (q k : ℤ) :
    ((n * (Nat.pow 2 (2 - q).toNat * Nat.pow 10 k.toNat) : ℕ) : ℚ) = n * 10 ^ k * unit q k := by
  have hgrid := pow_toNat (by norm_num : (10 : ℚ) ≠ 0) k
  simp only [Nat.pow_eq, Nat.cast_mul, Nat.cast_pow, Nat.cast_ofNat, hgrid, unit]
  ring

theorem point_le_iff (a n : ℕ) (q k : ℤ) :
    a * Nat.pow 2 (q - 2).toNat * Nat.pow 10 (-k).toNat ≤
        n * (Nat.pow 2 (2 - q).toNat * Nat.pow 10 k.toNat) ↔
      (a : ℚ) * 2 ^ (q - 2) ≤ n * 10 ^ k := by
  rw [← Nat.cast_le (α := ℚ), cast_point, cast_denominator, mul_le_mul_iff_left₀ (unit_pos q k)]

theorem le_point_iff (a n : ℕ) (q k : ℤ) :
    n * (Nat.pow 2 (2 - q).toNat * Nat.pow 10 k.toNat) ≤
        a * Nat.pow 2 (q - 2).toNat * Nat.pow 10 (-k).toNat ↔
      n * (10 : ℚ) ^ k ≤ a * 2 ^ (q - 2) := by
  rw [← Nat.cast_le (α := ℚ), cast_point, cast_denominator, mul_le_mul_iff_left₀ (unit_pos q k)]

/-- The interval of a float. -/
def ofFloat (m : ℕ) (q : ℤ) : Interval := ofBinary m q leastExponent

variable {m : ℕ} {q : ℤ}

theorem zpow_eq_quarters (q : ℤ) : (2 : ℚ) ^ q = 2 ^ (q - 2) * 4 := by
  rw [show q = q - 2 + 2 by omega, zpow_add₀ (by norm_num)]
  norm_num

/-- The lower end, in quarters of `2^q`. -/
theorem cast_low (hm : 0 < m) :
    ((4 * m - if m = fractionCount && leastExponent < q then 1 else 2 : ℕ) : ℚ) * 2 ^ (q - 2) =
      (m - halfGap m q) * 2 ^ q := by
  rw [zpow_eq_quarters q, halfGap]
  by_cases hpower : m = fractionCount ∧ leastExponent < q
  · have hle : 1 ≤ 4 * m := by omega
    simp only [hpower, decide_true, Bool.and_self, if_true, and_self]
    rw [← hpower.1, Nat.cast_sub hle]
    push_cast
    ring
  · have hle : 2 ≤ 4 * m := by omega
    simp only [hpower, Bool.and_eq_true, decide_eq_true_eq, if_false]
    rw [Nat.cast_sub hle]
    push_cast
    ring

theorem cast_high (m : ℕ) (q : ℤ) :
    ((4 * m + 2 : ℕ) : ℚ) * 2 ^ (q - 2) = (m + 1 / 2) * 2 ^ q := by
  rw [zpow_eq_quarters q]
  push_cast
  ring

theorem cast_value (m : ℕ) (q : ℤ) : ((4 * m : ℕ) : ℚ) * 2 ^ (q - 2) = m * 2 ^ q := by
  rw [zpow_eq_quarters q]
  push_cast
  ring

theorem low_le_iff (hm : 0 < m) (k : ℤ) (n : ℕ) :
    ((ofFloat m q).inUnits k).low ≤ n * ((ofFloat m q).inUnits k).denominator ↔
      (m - halfGap m q) * 2 ^ q ≤ n * 10 ^ k := by
  rw [← cast_low hm]
  exact point_le_iff _ n q k

theorem lt_low_iff (hm : 0 < m) (k : ℤ) (n : ℕ) :
    n * ((ofFloat m q).inUnits k).denominator ≤ ((ofFloat m q).inUnits k).low ↔
      n * 10 ^ k ≤ (m - halfGap m q) * 2 ^ q := by
  rw [← cast_low hm]
  exact le_point_iff _ n q k

theorem le_high_iff (k : ℤ) (n : ℕ) :
    n * ((ofFloat m q).inUnits k).denominator ≤ ((ofFloat m q).inUnits k).high ↔
      n * 10 ^ k ≤ (m + 1 / 2 : ℚ) * 2 ^ q := by
  rw [← cast_high]
  exact le_point_iff _ n q k

theorem high_le_iff (k : ℤ) (n : ℕ) :
    ((ofFloat m q).inUnits k).high ≤ n * ((ofFloat m q).inUnits k).denominator ↔
      (m + 1 / 2 : ℚ) * 2 ^ q ≤ n * 10 ^ k := by
  rw [← cast_high]
  exact point_le_iff _ n q k

/-- **A point of a grid is in the interval of a float just when it rounds to the float.** -/
theorem contains_iff (hm : 0 < m) (k : ℤ) (n : ℕ) :
    ((ofFloat m q).inUnits k).contains n ↔ RoundsTo m q (n * 10 ^ k) := by
  have hclosed : ((ofFloat m q).inUnits k).closed ↔ m % 2 = 0 := decide_eq_true_iff
  have hlow_lt := lt_iff_lt_of_le_iff_le (lt_low_iff (q := q) hm k n)
  have hlt_high := lt_iff_lt_of_le_iff_le (high_le_iff (m := m) (q := q) k n)
  unfold contains
  split
  · next heven =>
    rw [hclosed] at heven
    rw [Bool.and_eq_true, decide_eq_true_iff, decide_eq_true_iff, low_le_iff hm, le_high_iff]
    constructor
    · rintro ⟨hl, hh⟩
      exact ⟨hl, hh, fun hodd => by omega⟩
    · intro h
      exact ⟨h.low, h.high⟩
  · next hodd =>
    rw [hclosed] at hodd
    rw [Bool.and_eq_true, decide_eq_true_iff, decide_eq_true_iff, hlow_lt, hlt_high]
    constructor
    · rintro ⟨hl, hh⟩
      exact ⟨hl.le, hh.le, fun _ => ⟨hl, hh⟩⟩
    · intro h
      exact h.strict (by omega)

/-! ## The float on the grids -/

theorem le_value_iff (k : ℤ) (n : ℕ) :
    n * ((ofFloat m q).inUnits k).denominator ≤ ((ofFloat m q).inUnits k).value ↔
      n * (10 : ℚ) ^ k ≤ m * 2 ^ q := by
  rw [← cast_value]
  exact le_point_iff _ n q k

theorem denominator_pos (m : ℕ) (q k : ℤ) : 0 < ((ofFloat m q).inUnits k).denominator :=
  Nat.mul_pos (Nat.pow_pos (by decide)) (Nat.pow_pos (by decide))

/-- The point of the grid that is not above the float. -/
def below (m : ℕ) (q k : ℤ) : ℕ :=
  ((ofFloat m q).inUnits k).value / ((ofFloat m q).inUnits k).denominator

theorem below_le (m : ℕ) (q k : ℤ) : below m q k * (10 : ℚ) ^ k ≤ m * 2 ^ q :=
  (le_value_iff k _).1 (Nat.div_mul_le_self _ _)

theorem lt_above (m : ℕ) (q k : ℤ) : m * (2 : ℚ) ^ q < ((below m q k + 1 : ℕ) : ℚ) * 10 ^ k := by
  refine (lt_iff_lt_of_le_iff_le (le_value_iff k _)).1 ?_
  exact (Nat.div_lt_iff_lt_mul (denominator_pos m q k)).1 (Nat.lt_succ_self _)

/-- On a grid of seventeen digits and more, the point above a float rounds to it. -/
theorem roundsTo_above (hm : m < 2 * fractionCount) {k : ℤ}
    (hk : (10 : ℚ) ^ 17 * 10 ^ k ≤ m * 2 ^ q) : RoundsTo m q ((below m q k + 1 : ℕ) * 10 ^ k) := by
  have hp := two_zpow_pos q
  have hgrid := ten_zpow_pos k
  have hgap := halfGap_pos m q
  have hbelow := below_le m q k
  have habove := lt_above m q k
  have hlow : (m - halfGap m q) * (2 : ℚ) ^ q < ((below m q k + 1 : ℕ) : ℚ) * 10 ^ k :=
    lt_trans (mul_lt_mul_of_pos_right (by linarith) hp) habove
  have hlt : (m : ℚ) < 2 * fractionCount := by exact_mod_cast hm
  -- a step of the grid is less than half the distance to the next float
  have hstep : (10 : ℚ) ^ k < 1 / 2 * 2 ^ q := by
    have hbound : m * (2 : ℚ) ^ q < 2 * fractionCount * 2 ^ q := mul_lt_mul_of_pos_right hlt hp
    norm_num [fractionCount] at hk hbound
    linarith
  have hhigh : ((below m q k + 1 : ℕ) : ℚ) * 10 ^ k < (m + 1 / 2) * 2 ^ q := by
    push_cast
    linarith
  exact ⟨hlow.le, hhigh.le, fun _ => ⟨hlow, hhigh⟩⟩

theorem contains_of_nearest? {i : Interval} {tie : Tie} {n : ℕ} (h : i.nearest? tie = some n) :
    i.contains n := by
  unfold nearest? at h
  simp only at h
  split at h
  · next hboth =>
    rw [Bool.and_eq_true] at hboth
    split at h
    · cases h
      exact hboth.1
    · split at h
      · cases h
        exact hboth.2
      · cases tie with
        | up =>
          cases h
          exact hboth.2
        | toEven =>
          cases h
          split
          · exact hboth.1
          · exact hboth.2
  · split at h
    · next hbelow =>
      cases h
      exact hbelow
    · split at h
      · next habove =>
        cases h
        exact habove
      · cases h

/-- If the point above the value is in the interval, a nearest point is found. -/
theorem exists_nearest? {i : Interval} (tie : Tie)
    (h : i.contains (i.value / i.denominator + 1)) : ∃ n, i.nearest? tie = some n := by
  unfold nearest?
  simp only [h, Bool.and_true, if_true]
  split
  · split
    · exact ⟨_, rfl⟩
    · split
      · exact ⟨_, rfl⟩
      · cases tie <;> exact ⟨_, rfl⟩
  · exact ⟨_, rfl⟩

/-! ## The first digit -/

/-- The common denominator of a float and the powers of two. -/
theorem cast_ofFloat (m : ℕ) (q : ℤ) :
    ((ofFloat m q).value : ℚ) = m * 2 ^ q * (ofFloat m q).denominator := by
  have hscale := pow_toNat (by norm_num : (2 : ℚ) ≠ 0) (q - 2)
  rw [neg_sub] at hscale
  rw [← cast_value]
  simp only [ofFloat, ofBinary, Nat.pow_eq, Nat.cast_mul, Nat.cast_pow, Nat.cast_ofNat, hscale]
  ring

/-- A quotient of whole numbers lies between the powers of ten that its digits give. -/
theorem exists_length_toDigits_div {a b : ℕ} (hb : 0 < b) (hle : b ≤ a) :
    ∃ n, (Nat.toDigits 10 (a / b)).length = n + 1 ∧
      (10 : ℚ) ^ n * b ≤ a ∧ (a : ℚ) < 10 ^ (n + 1) * b := by
  have hlow := pow_length_toDigits_le (Nat.ne_of_gt (Nat.div_pos hle hb))
  have hhigh := lt_pow_length_toDigits (a / b)
  obtain ⟨n, hn⟩ := Nat.exists_eq_succ_of_ne_zero
    (Nat.ne_of_gt (Nat.length_toDigits_pos (b := 10) (n := a / b)))
  rw [hn] at hlow hhigh
  have hlow := (Nat.le_div_iff_mul_le hb).1 hlow
  have hhigh := (Nat.div_lt_iff_lt_mul hb).1 hhigh
  exact ⟨n, hn, by exact_mod_cast hlow, by exact_mod_cast hhigh⟩

/-- The value has its first digit where it is said to have it. -/
theorem leading_spec {i : Interval} {x : ℚ} (hvalue : (i.value : ℚ) = x * i.denominator)
    (hpos : 0 < i.value) (hdenominator : 0 < i.denominator) :
    (10 : ℚ) ^ i.leading ≤ x ∧ x < 10 ^ (i.leading + 1) := by
  have hd : (0 : ℚ) < i.denominator := by exact_mod_cast hdenominator
  unfold leading
  split
  · next hle =>
    obtain ⟨n, hlength, hlow, hhigh⟩ := exists_length_toDigits_div hdenominator hle
    rw [hvalue] at hlow hhigh
    have hexponent : ((n + 1 : ℕ) : ℤ) - 1 = n := by omega
    rw [hlength, hexponent, zpow_natCast, ← Nat.cast_succ, zpow_natCast]
    exact ⟨le_of_mul_le_mul_right hlow hd, lt_of_mul_lt_mul_right hhigh hd.le⟩
  · next hlt =>
    obtain ⟨n, hlength, hlow, hhigh⟩ := exists_length_toDigits_div hpos (Nat.le_of_not_le hlt)
    rw [hvalue] at hlow hhigh
    -- as many zeros as the inverse of the value has digits, or one less
    have hle : x * 10 ^ n ≤ 1 := le_of_mul_le_mul_right (by linarith) hd
    have hgt : 1 < x * 10 ^ (n + 1) := lt_of_mul_lt_mul_right (by linarith) hd.le
    have hinv : (10 : ℚ) ^ (-(n : ℤ)) = 1 / 10 ^ n := by
      rw [zpow_neg, zpow_natCast, one_div]
    have hinv' : (10 : ℚ) ^ (-(n : ℤ) - 1) = 1 / 10 ^ (n + 1) := by
      rw [← neg_add', zpow_neg, ← Nat.cast_succ, zpow_natCast, one_div]
    have hten : (0 : ℚ) < 10 ^ n := by positivity
    simp only [hlength, Nat.add_sub_cancel, Nat.pow_eq]
    split
    · next hexact =>
      have hexact : (i.denominator : ℚ) ≤ i.value * 10 ^ n := by exact_mod_cast hexact
      rw [hvalue] at hexact
      have hge : 1 ≤ x * 10 ^ n := le_of_mul_le_mul_right (by linarith) hd
      rw [zpow_add_one₀ (by norm_num), hinv, div_le_iff₀ hten, div_mul_eq_mul_div, lt_div_iff₀ hten]
      exact ⟨hge, by linarith⟩
    · next hexact =>
      have hexact : i.value * 10 ^ n < (i.denominator : ℚ) := by
        exact_mod_cast Nat.lt_of_not_le hexact
      rw [hvalue] at hexact
      have hlt : x * 10 ^ n < 1 := lt_of_mul_lt_mul_right (by linarith) hd.le
      rw [sub_add_cancel, hinv, hinv', div_le_iff₀ (by positivity), lt_div_iff₀ hten]
      exact ⟨hgt.le, hlt⟩

end Interval

/-! ## The shortest decimal -/

theorem onGrids_cases (i : Interval) (tie : Tie) (k : ℤ) (finer : ℕ) {j : ℕ} (hj : j < finer)
    (h : ∃ n, (i.inUnits (k - j)).nearest? tie = some n) :
    (i.inUnits (onGrids i tie k finer).exponent).contains (onGrids i tie k finer).coefficient ∧
      k - j ≤ (onGrids i tie k finer).exponent := by
  induction finer generalizing k j with
  | zero => cases hj
  | succ finer ih =>
    unfold onGrids
    split
    · next n hn => exact ⟨Interval.contains_of_nearest? hn, by simp⟩
    · next hnone =>
      cases j with
      | zero =>
        obtain ⟨n, hn⟩ := h
        rw [Nat.cast_zero, sub_zero, hnone] at hn
        cases hn
      | succ j =>
        have hshift : k - (j + 1 : ℕ) = k - 1 - j := by
          push_cast
          ring
        rw [hshift] at h ⊢
        exact ih (k - 1) (Nat.lt_of_succ_lt_succ hj) h

theorem value_trimZeros (fuel : ℕ) (d : Decimal) : (trimZeros fuel d).value = d.value := by
  induction fuel generalizing d with
  | zero => rfl
  | succ fuel ih =>
    unfold trimZeros
    split
    · next h =>
      rw [ih]
      have hten : d.coefficient = 10 * (d.coefficient / 10) := by omega
      have hten : (d.coefficient : ℚ) = 10 * (d.coefficient / 10 : ℕ) := by exact_mod_cast hten
      rw [value, value, hten, zpow_add_one₀ (by norm_num)]
      ring
    · rfl

theorem le_exponent_trimZeros (fuel : ℕ) (d : Decimal) :
    d.exponent ≤ (trimZeros fuel d).exponent := by
  induction fuel generalizing d with
  | zero => exact le_rfl
  | succ fuel ih =>
    unfold trimZeros
    split
    · exact le_trans (by simp) (ih _)
    · exact le_rfl

variable {m : ℕ} {q : ℤ}

/-- The shortest decimal that stands for a float. -/
def ofFloat (m : ℕ) (q : ℤ) (tie : Tie) : Decimal := shortest (.ofFloat m q) tie

/-- The exponent of the first digit of a float. -/
def leading (m : ℕ) (q : ℤ) : ℤ := (Interval.ofFloat m q).leading

theorem leading_spec (q : ℤ) (hm : 0 < m) :
    (10 : ℚ) ^ leading m q ≤ m * 2 ^ q ∧ m * (2 : ℚ) ^ q < 10 ^ (leading m q + 1) :=
  Interval.leading_spec (Interval.cast_ofFloat m q)
    (Nat.mul_pos (Nat.mul_pos (by decide) hm) (Nat.pow_pos (by decide)))
    (Nat.pow_pos (by decide))

theorem ofFloat_cases (hc : IsCanonical m q) (hm : 0 < m) (tie : Tie) :
    RoundsTo m q (ofFloat m q tie).value ∧ leading m q - 17 ≤ (ofFloat m q tie).exponent := by
  have hgrid : (10 : ℚ) ^ 17 * 10 ^ (leading m q - (17 : ℕ)) ≤ m * 2 ^ q := by
    rw [← zpow_natCast, ← zpow_add₀ (by norm_num), add_sub_cancel]
    exact (leading_spec q hm).1
  have hcontains := (Interval.contains_iff hm _ _).2 (Interval.roundsTo_above hc.lt hgrid)
  have hnearest := Interval.exists_nearest? tie hcontains
  obtain ⟨hfound, hexponent⟩ :=
    onGrids_cases (.ofFloat m q) tie (leading m q) 18 (by decide) hnearest
  rw [ofFloat, shortest, value_trimZeros]
  exact ⟨(Interval.contains_iff hm _ _).1 hfound, le_trans hexponent (le_exponent_trimZeros _ _)⟩

/-- **The shortest decimal stands for its float.** -/
theorem roundsTo_ofFloat (hc : IsCanonical m q) (hm : 0 < m) (tie : Tie) :
    RoundsTo m q (ofFloat m q tie).value := (ofFloat_cases hc hm tie).1

theorem coefficient_ofFloat_pos (hc : IsCanonical m q) (hm : 0 < m) (tie : Tie) :
    0 < (ofFloat m q tie).coefficient := by
  by_contra hzero
  have hzero : (ofFloat m q tie).coefficient = 0 := by omega
  have hlow := (roundsTo_ofFloat hc hm tie).low
  rw [value, hzero, Nat.cast_zero, zero_mul] at hlow
  have hgap := halfGap_le m q
  have hm : (1 : ℚ) ≤ m := by exact_mod_cast hm
  have hpos : 0 < (m - halfGap m q) * (2 : ℚ) ^ q := mul_pos (by linarith) (two_zpow_pos q)
  linarith

/-- A shortest decimal has eighteen digits and a little more. -/
theorem coefficient_ofFloat_lt (hc : IsCanonical m q) (hm : 0 < m) (tie : Tie) :
    (ofFloat m q tie).coefficient < 15 * 10 ^ 17 := by
  obtain ⟨hrounds, hexponent⟩ := ofFloat_cases hc hm tie
  have hlt := (leading_spec q hm).2
  have hle := hrounds.le hm
  have hgrid : (10 : ℚ) ^ (leading m q - 17) ≤ 10 ^ (ofFloat m q tie).exponent :=
    zpow_le_zpow_right₀ (by norm_num) hexponent
  have hten : (10 : ℚ) ^ (leading m q + 1) = 10 ^ (leading m q - 17) * 10 ^ 18 := by
    rw [← zpow_natCast, ← zpow_add₀ (by norm_num)]
    congr 1
    ring
  have hpos := ten_zpow_pos (leading m q - 17)
  have hbound : ((ofFloat m q tie).coefficient : ℚ) * 10 ^ (leading m q - 17) <
      (15 * 10 ^ 17) * 10 ^ (leading m q - 17) := by
    have hscaled : ((ofFloat m q tie).coefficient : ℚ) * 10 ^ (leading m q - 17) ≤
        (ofFloat m q tie).value := mul_le_mul_of_nonneg_left hgrid (Nat.cast_nonneg _)
    rw [hten] at hlt
    linarith
  have hlt := lt_of_mul_lt_mul_right hbound hpos.le
  exact_mod_cast hlt

/-- The exponent of a shortest decimal is not far from that of the first digit. -/
theorem exponent_ofFloat_le (hc : IsCanonical m q) (hm : 0 < m) (tie : Tie) :
    (ofFloat m q tie).exponent ≤ leading m q + 1 := by
  have hle := (roundsTo_ofFloat hc hm tie).le hm
  have hlt := (leading_spec q hm).2
  have hone : (1 : ℚ) ≤ (ofFloat m q tie).coefficient := by
    exact_mod_cast coefficient_ofFloat_pos hc hm tie
  have hpos := ten_zpow_pos (ofFloat m q tie).exponent
  have hvalue : (10 : ℚ) ^ (ofFloat m q tie).exponent ≤ (ofFloat m q tie).value := by
    rw [value]
    exact le_mul_of_one_le_left hpos.le hone
  have hten : (10 : ℚ) ^ (ofFloat m q tie).exponent < 10 ^ (leading m q + 2) := by
    rw [show leading m q + 2 = leading m q + 1 + 1 by ring, zpow_add_one₀ (by norm_num)]
    linarith [ten_zpow_pos (leading m q + 1)]
  have := (zpow_lt_zpow_iff_right₀ (by norm_num : (1 : ℚ) < 10)).1 hten
  omega

/-- The first digit of a finite float is not far from the point. -/
theorem leading_bounds (hc : IsCanonical m q) (hm : 0 < m) (hq : q ≤ 971) :
    -324 ≤ leading m q ∧ leading m q ≤ 308 := by
  obtain ⟨hlow, hhigh⟩ := leading_spec q hm
  have hone : (1 : ℚ) ≤ m := by exact_mod_cast hm
  have hlt : (m : ℚ) ≤ 2 ^ 53 := by exact_mod_cast hc.lt.le
  have hp := two_zpow_pos q
  constructor
  · have hleast : (2 : ℚ) ^ (-1074 : ℤ) ≤ 2 ^ q :=
      zpow_le_zpow_right₀ (by norm_num) hc.leastExponent_le
    have hten : (10 : ℚ) ^ (-324 : ℤ) < 2 ^ (-1074 : ℤ) := by
      have hpowers : (2 : ℕ) ^ 1074 < 10 ^ 324 := by decide +kernel
      have hpowers : (2 : ℚ) ^ 1074 < 10 ^ 324 := by exact_mod_cast hpowers
      exact inv_strictAnti₀ (by positivity) hpowers
    have hmul : (2 : ℚ) ^ q ≤ m * 2 ^ q := le_mul_of_one_le_left hp.le hone
    have := (zpow_lt_zpow_iff_right₀ (by norm_num : (1 : ℚ) < 10)).1
      (lt_of_lt_of_le hten (hleast.trans (hmul.trans hhigh.le)))
    omega
  · have hgreatest : (2 : ℚ) ^ q ≤ 2 ^ (971 : ℤ) := zpow_le_zpow_right₀ (by norm_num) hq
    have hmul : (m : ℚ) * 2 ^ q ≤ 2 ^ 53 * 2 ^ (971 : ℤ) :=
      mul_le_mul hlt hgreatest hp.le (by positivity)
    have hten : (2 : ℚ) ^ 53 * 2 ^ (971 : ℤ) < 10 ^ (309 : ℤ) := by
      have hpowers : (2 : ℕ) ^ 53 * 2 ^ 971 < 10 ^ 309 := by decide +kernel
      exact_mod_cast hpowers
    have := (zpow_lt_zpow_iff_right₀ (by norm_num : (1 : ℚ) < 10)).1
      (lt_of_le_of_lt (hlow.trans hmul) hten)
    omega

end MarkupPad.Decimal
