import Mathlib
import MarkupPad.Proofs.Decimal.Rounding

/-!
# Rounding

A mantissa with two more bits is what is known of a number on a grid.  Shifted to the grid of the
floats of its size and rounded there, it is the float that the number rounds to.

    Represents em x → Represents (em >>> n) (x / 2 ^ n)                  (Represents.shiftRight)
    roundWithAccuracy .. = ofParts s m q  with IsCanonical m q and RoundsTo m q x
                                                                       (roundWithAccuracy_spec)
-/

namespace MarkupPad.FloatParts

open Float.Model Float.Model.UnpackedFloat Decimal

/-! ## Mantissas with two more bits -/

/-- The number is the mantissa, between it and the next half, the half, or above it. -/
def Represents (em : ExtendedMantissa) (x : ℚ) : Prop :=
  if em.roundBit then
    if em.stickyBit then em.mantissa + 1 / 2 < x ∧ x < em.mantissa + 1 else x = em.mantissa + 1 / 2
  else
    if em.stickyBit then em.mantissa < x ∧ x < em.mantissa + 1 / 2 else x = em.mantissa

variable {em : ExtendedMantissa} {x : ℚ}

theorem represents_exact (m : ℕ) :
    Represents (ExtendedMantissa.ofMantissaAndAccuracy m .exact) m := by
  simp [Represents, ExtendedMantissa.ofMantissaAndAccuracy]

theorem Represents.mantissa_le (h : Represents em x) : em.mantissa ≤ x := by
  unfold Represents at h
  split at h <;> split at h
  · linarith [h.1]
  · linarith
  · exact h.1.le
  · exact h.ge

theorem Represents.shiftRightOne (h : Represents em x) : Represents em.shiftRightOne (x / 2) := by
  obtain ⟨m, round, sticky⟩ := em
  have hdiv : ((m % 2 : ℕ) : ℚ) + 2 * (m / 2 : ℕ) = m := by exact_mod_cast Nat.mod_add_div m 2
  rcases Nat.mod_two_eq_zero_or_one m with hm | hm <;> cases round <;> cases sticky <;>
    simp [Represents, ExtendedMantissa.shiftRightOne, hm] at h hdiv ⊢ <;>
    first
      | linarith
      | constructor <;> linarith

/-- **Nothing that matters for rounding is lost by shifting.** -/
theorem Represents.shiftRight (h : Represents em x) (n : ℕ) :
    Represents (em >>> n) (x / 2 ^ n) := by
  change Represents (n.repeat ExtendedMantissa.shiftRightOne em) _
  induction n with
  | zero => simpa [Nat.repeat] using h
  | succ n ih =>
    rw [Nat.repeat, pow_succ, ← div_div]
    exact ih.shiftRightOne

/-! ## Rounding a mantissa -/

theorem mantissa_le_roundedMantissa (em : ExtendedMantissa) : em.mantissa ≤ em.roundedMantissa := by
  obtain ⟨m, round, sticky⟩ := em
  cases round <;> cases sticky <;>
    simp [ExtendedMantissa.roundedMantissa, ExtendedMantissa.accuracy, Accuracy.roundToNearestEven]

theorem roundedMantissa_le (em : ExtendedMantissa) : em.roundedMantissa ≤ em.mantissa + 1 := by
  obtain ⟨m, round, sticky⟩ := em
  cases round <;> cases sticky <;>
    simp [ExtendedMantissa.roundedMantissa, ExtendedMantissa.accuracy, Accuracy.roundToNearestEven]
  omega

/-- The whole number is at most a half away, and even where it is just a half. -/
def IsNearest (r : ℕ) (x : ℚ) : Prop := |x - r| ≤ 1 / 2 ∧ (r % 2 = 1 → |x - r| < 1 / 2)

theorem isNearest_of_lt {r : ℕ} (h : |x - r| < 1 / 2) : IsNearest r x := ⟨h.le, fun _ => h⟩

/-- A mantissa is rounded to the nearest one. -/
theorem Represents.isNearest_roundedMantissa (h : Represents em x) :
    IsNearest em.roundedMantissa x := by
  obtain ⟨m, round, sticky⟩ := em
  cases round <;> cases sticky <;>
    simp only [Represents, if_true, if_false, Bool.false_eq_true] at h
  · have hr : (ExtendedMantissa.mk m false false).roundedMantissa = m := rfl
    rw [hr, h]
    exact isNearest_of_lt (by norm_num)
  · have hr : (ExtendedMantissa.mk m false true).roundedMantissa = m := rfl
    rw [hr]
    exact isNearest_of_lt (abs_lt.2 ⟨by linarith, by linarith⟩)
  · have hr : (ExtendedMantissa.mk m true false).roundedMantissa = m + m % 2 := rfl
    rw [hr, h]
    refine ⟨?_, fun hodd => by omega⟩
    rcases Nat.mod_two_eq_zero_or_one m with hm | hm <;> rw [hm] <;> norm_num
  · have hr : (ExtendedMantissa.mk m true true).roundedMantissa = m + 1 := rfl
    rw [hr]
    refine isNearest_of_lt ?_
    push_cast
    exact abs_lt.2 ⟨by linarith, by linarith⟩

/-! ## The grid of a number -/

/-- The exponent of the floats around a number of the given mantissa. -/
def target (m : ℕ) (e : ℤ) : ℤ := Format.binary64.targetExponent (totalExponent m e)

theorem target_eq (m : ℕ) (e : ℤ) : target m e = max (m.log2 + e - 52) leastExponent := by
  simp only [target, Format.targetExponent, totalExponent, Format.mantissaBits, Format.minExponent,
    leastExponent]
  omega

theorem mantissa_shiftRight (em : ExtendedMantissa) (n : ℕ) :
    (em >>> n).mantissa = em.mantissa / 2 ^ n := by
  change (n.repeat ExtendedMantissa.shiftRightOne em).mantissa = _
  induction n with
  | zero => simp [Nat.repeat]
  | succ n ih =>
    rw [Nat.repeat, ExtendedMantissa.shiftRightOne, ih, Nat.div_div_eq_div_mul, pow_succ]

/-- The shift to a grid that is not finer. -/
theorem shiftToTargetExponent_eq {m : ℕ} {e : ℤ} (accuracy : Accuracy) (he : e ≤ target m e) :
    shiftToTargetExponent Format.binary64 m e accuracy =
      (ExtendedMantissa.ofMantissaAndAccuracy m accuracy >>> (target m e - e).toNat,
        target m e) := by
  have hsum : e + ((target m e - e).toNat : ℤ) = target m e := by omega
  exact Prod.ext rfl hsum

section
variable {m : ℕ} {e : ℤ} {accuracy : Accuracy}

theorem mantissa_ofMantissaAndAccuracy :
    (ExtendedMantissa.ofMantissaAndAccuracy m accuracy).mantissa = m := by
  unfold ExtendedMantissa.ofMantissaAndAccuracy
  split <;> rfl

/-- What is left of a mantissa has 53 bits, -/
theorem div_lt (m : ℕ) (e : ℤ) : m / 2 ^ (target m e - e).toNat < 2 * fractionCount := by
  have hlog : m < 2 ^ (m.log2 + 1) := Nat.lt_log2_self
  have htarget := target_eq m e
  have hle : m.log2 + 1 ≤ 53 + (target m e - e).toNat := by omega
  rw [Nat.div_lt_iff_lt_mul (by positivity)]
  calc m
    _ < 2 ^ (m.log2 + 1) := hlog
    _ ≤ 2 ^ (53 + (target m e - e).toNat) := Nat.pow_le_pow_right (by decide) hle
    _ = 2 * fractionCount * 2 ^ (target m e - e).toNat := by rw [pow_add]; rfl

/-- and not fewer, unless the grid is the finest. -/
theorem le_div (he : e ≤ target m e) (hleast : target m e ≠ leastExponent) :
    fractionCount ≤ m / 2 ^ (target m e - e).toNat := by
  have htarget := target_eq m e
  have heq : m.log2 = 52 + (target m e - e).toNat := by omega
  have hm : m ≠ 0 := by
    rintro rfl
    rw [Nat.log2_zero] at heq
    omega
  rw [Nat.le_div_iff_mul_le (by positivity)]
  calc fractionCount * 2 ^ (target m e - e).toNat
    _ = 2 ^ (52 + (target m e - e).toNat) := by rw [pow_add]; rfl
    _ = 2 ^ m.log2 := by rw [heq]
    _ ≤ m := Nat.log2_self_le hm

end

/-! ## Floats of given parts -/

/-- The float with a mantissa, which may be zero. -/
def ofParts (s : Sign) (m : ℕ) (q : ℤ) : UnpackedFloat :=
  if h : m = 0 then .zero s else .finite s m q (Nat.pos_of_ne_zero h)

/-- A mantissa of 53 bits is left as it is. -/
theorem shiftToTargetExponent_of_lt {r : ℕ} {t : ℤ} (hr : r < 2 * fractionCount)
    (ht : leastExponent ≤ t) :
    shiftToTargetExponent Format.binary64 r t .exact = (⟨r, false, false⟩, t) := by
  have hlog : r.log2 < 53 := by
    by_cases hzero : r = 0
    · simp [hzero]
    · exact (Nat.log2_lt hzero).2 hr
  have htarget := target_eq r t
  have hshift : (target r t - t).toNat = 0 := by omega
  change (ExtendedMantissa.mk r false false >>> (target r t - t).toNat,
    t + ((target r t - t).toNat : ℤ)) = _
  rw [hshift]
  exact Prod.ext rfl (add_zero t)

/-- A carry makes the mantissa one bit longer. -/
theorem shiftToTargetExponent_carry {t : ℤ} (ht : leastExponent ≤ t) :
    shiftToTargetExponent Format.binary64 (2 * fractionCount) t .exact =
      (⟨fractionCount, false, false⟩, t + 1) := by
  have hlog : (2 * fractionCount).log2 = 53 := Nat.log2_two_pow (n := 53)
  have htarget := target_eq (2 * fractionCount) t
  have hshift : (target (2 * fractionCount) t - t).toNat = 1 := by omega
  change (ExtendedMantissa.mk (2 * fractionCount) false false >>>
      (target (2 * fractionCount) t - t).toNat,
    t + ((target (2 * fractionCount) t - t).toNat : ℤ)) = _
  rw [hshift]
  rfl

theorem roundWithAccuracy_eq (s : Sign) {m : ℕ} {e : ℤ} {accuracy : Accuracy}
    (he : e ≤ target m e) :
    let r := (ExtendedMantissa.ofMantissaAndAccuracy m accuracy >>>
      (target m e - e).toNat).roundedMantissa
    roundWithAccuracy Format.binary64 s m e accuracy =
      if r < 2 * fractionCount then ofParts s r (target m e)
      else ofParts s fractionCount (target m e + 1) := by
  intro r
  have hleast : leastExponent ≤ target m e := by
    have := target_eq m e
    omega
  have hle : r ≤ 2 * fractionCount := by
    have hround := roundedMantissa_le
      (ExtendedMantissa.ofMantissaAndAccuracy m accuracy >>> (target m e - e).toNat)
    have hlt := div_lt m e
    rw [mantissa_shiftRight, mantissa_ofMantissaAndAccuracy] at hround
    omega
  rw [roundWithAccuracy, shiftToTargetExponent_eq accuracy he]
  change (let (em, q) := shiftToTargetExponent Format.binary64 r (target m e) .exact
    if h : em.mantissa = 0 then UnpackedFloat.zero s
    else UnpackedFloat.finite s em.mantissa q (Nat.pos_of_ne_zero h)) = _
  rcases Nat.lt_or_ge r (2 * fractionCount) with hlt | hge
  · rw [if_pos hlt, shiftToTargetExponent_of_lt hlt hleast]
    rfl
  · have hr : r = 2 * fractionCount := Nat.le_antisymm hle hge
    rw [if_neg (Nat.not_lt.2 hge), hr, shiftToTargetExponent_carry hleast]
    rfl

/-- A nearest mantissa makes the nearest float, -/
theorem roundsTo_of_isNearest {r : ℕ} {t : ℤ} {y : ℚ} (h : IsNearest r y)
    (hnormal : r = fractionCount → leastExponent < t → r ≤ y) : RoundsTo r t (y * 2 ^ t) := by
  have hp := two_zpow_pos t
  obtain ⟨hle, hlt⟩ := h
  rw [abs_le] at hle
  rw [abs_lt] at hlt
  by_cases hgap : r = fractionCount ∧ leastExponent < t
  · have hy := hnormal hgap.1 hgap.2
    have hpos := halfGap_pos r t
    have hodd : ¬ r % 2 = 1 := by
      rw [hgap.1]
      decide
    exact ⟨mul_le_mul_of_nonneg_right (by linarith) hp.le,
      mul_le_mul_of_nonneg_right (by linarith) hp.le, fun h => absurd h hodd⟩
  · have hhalf : halfGap r t = 1 / 2 := if_neg hgap
    refine ⟨mul_le_mul_of_nonneg_right (by linarith) hp.le,
      mul_le_mul_of_nonneg_right (by linarith) hp.le, fun hodd => ?_⟩
    have hlt := hlt hodd
    exact ⟨mul_lt_mul_of_pos_right (by linarith) hp, mul_lt_mul_of_pos_right (by linarith) hp⟩

/-- and so it does after a carry. -/
theorem roundsTo_of_carry {t : ℤ} {y : ℚ} (ht : leastExponent ≤ t)
    (h : IsNearest (2 * fractionCount) y) : RoundsTo fractionCount (t + 1) (y * 2 ^ t) := by
  have hp := two_zpow_pos t
  have hle := h.1
  rw [abs_le] at hle
  push_cast at hle
  have hquarter : halfGap fractionCount (t + 1) = 1 / 4 := if_pos ⟨rfl, by omega⟩
  have hdouble (a : ℚ) : a * 2 ^ (t + 1) = (2 * a) * 2 ^ t := by
    rw [zpow_add_one₀ (by norm_num)]
    ring
  refine ⟨?_, ?_, fun hodd => absurd hodd (by decide)⟩
  · rw [hquarter, hdouble]
    exact mul_le_mul_of_nonneg_right (by linarith) hp.le
  · rw [hdouble]
    exact mul_le_mul_of_nonneg_right (by linarith) hp.le

/-- **Rounding gives the float that the number rounds to.** -/
theorem roundWithAccuracy_spec (s : Sign) {m : ℕ} {e : ℤ} {accuracy : Accuracy} {x : ℚ}
    (hx : Represents (ExtendedMantissa.ofMantissaAndAccuracy m accuracy) (x / 2 ^ e))
    (he : e ≤ target m e) :
    ∃ m' q', roundWithAccuracy Format.binary64 s m e accuracy = ofParts s m' q' ∧
      IsCanonical m' q' ∧ RoundsTo m' q' x := by
  have hleast : leastExponent ≤ target m e := by
    have := target_eq m e
    omega
  have htarget : (2 : ℚ) ^ target m e = 2 ^ e * 2 ^ (target m e - e).toNat := by
    rw [← zpow_natCast, ← zpow_add₀ (by norm_num)]
    congr 1
    omega
  have hshifted := hx.shiftRight (target m e - e).toNat
  rw [div_div, ← htarget] at hshifted
  have hnearest := hshifted.isNearest_roundedMantissa
  have hvalue : x / 2 ^ target m e * 2 ^ target m e = x :=
    div_mul_cancel₀ x (two_zpow_pos _).ne'
  -- the mantissa before rounding
  have hmantissa := mantissa_shiftRight (ExtendedMantissa.ofMantissaAndAccuracy m accuracy)
    (target m e - e).toNat
  rw [mantissa_ofMantissaAndAccuracy] at hmantissa
  rw [roundWithAccuracy_eq s he]
  generalize ExtendedMantissa.ofMantissaAndAccuracy m accuracy >>> (target m e - e).toNat = em at *
  have hnormal (h : leastExponent < target m e) : fractionCount ≤ em.mantissa :=
    hmantissa ▸ le_div he h.ne'
  have hround := mantissa_le_roundedMantissa em
  split
  · next hlt =>
    refine ⟨em.roundedMantissa, target m e, rfl, ⟨hlt, hleast, ?_⟩, ?_⟩
    · rcases lt_or_eq_of_le hleast with h | h
      · exact .inl (le_trans (hnormal h) hround)
      · exact .inr h.symm
    · rw [← hvalue]
      refine roundsTo_of_isNearest hnearest fun hr h => ?_
      rw [hr]
      exact le_trans (by exact_mod_cast hnormal h) hshifted.mantissa_le
  · next hge =>
    have hr : em.roundedMantissa = 2 * fractionCount := by
      have hlt := div_lt m e
      have hle := roundedMantissa_le em
      omega
    refine ⟨fractionCount, target m e + 1, rfl, ⟨by decide, by omega, .inl le_rfl⟩, ?_⟩
    rw [← hvalue]
    exact roundsTo_of_carry hleast (hr ▸ hnearest)

end MarkupPad.FloatParts
