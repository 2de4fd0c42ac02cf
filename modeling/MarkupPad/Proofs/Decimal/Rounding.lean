import Mathlib.Algebra.Order.Field.Power
import Mathlib.Data.Rat.Cast.Order
import Mathlib.Tactic.Linarith
import Mathlib.Tactic.NormNum
import Mathlib.Tactic.Positivity
import Mathlib.Tactic.Ring
import MarkupPad.Decimal.Layout

/-!
# The numbers that round to a float

Around every float is the interval of the numbers that round to it, its ends included when the
mantissa is even.  The intervals do not meet.

    RoundsTo m q x → RoundsTo m' q' x → m = m' ∧ q = q'                        (RoundsTo.unique)
-/

namespace MarkupPad.FloatParts

open Decimal

/-- The parts of a float from zero on: 53 bits, and fewer only with the least exponent. -/
structure IsCanonical (m : ℕ) (q : ℤ) : Prop where
  lt : m < 2 * fractionCount
  leastExponent_le : leastExponent ≤ q
  normal : fractionCount ≤ m ∨ q = leastExponent

/-- Half the distance to the next smaller float, in units of `2^q`. -/
def halfGap (m : ℕ) (q : ℤ) : ℚ := if m = fractionCount ∧ leastExponent < q then 1 / 4 else 1 / 2

/-- No float is nearer to the number than `m · 2^q`, and of two that are equally near it is the
one with the even mantissa. -/
structure RoundsTo (m : ℕ) (q : ℤ) (x : ℚ) : Prop where
  low : (m - halfGap m q) * 2 ^ q ≤ x
  high : x ≤ (m + 1 / 2) * 2 ^ q
  strict : m % 2 = 1 → (m - halfGap m q) * 2 ^ q < x ∧ x < (m + 1 / 2) * 2 ^ q

variable {m m' : ℕ} {q q' : ℤ} {x : ℚ}

theorem halfGap_le (m : ℕ) (q : ℤ) : halfGap m q ≤ 1 / 2 := by
  unfold halfGap
  split <;> norm_num

theorem halfGap_pos (m : ℕ) (q : ℤ) : 0 < halfGap m q := by
  unfold halfGap
  split <;> norm_num

/-- Below the least mantissa of 53 bits the gap is smaller. -/
theorem sub_halfGap_le (hm : fractionCount ≤ m) (hq : leastExponent < q) :
    (fractionCount : ℚ) - 1 / 4 ≤ m - halfGap m q := by
  rcases Nat.eq_or_lt_of_le hm with heq | hlt
  · rw [halfGap, if_pos ⟨heq.symm, hq⟩, heq]
  · have hlt : (fractionCount : ℚ) + 1 ≤ m := by exact_mod_cast hlt
    have hgap := halfGap_le m q
    linarith

theorem two_zpow_pos (q : ℤ) : (0 : ℚ) < 2 ^ q := by positivity

/-- A float rounds to itself. -/
theorem roundsTo_self (m : ℕ) (q : ℤ) : RoundsTo m q (m * 2 ^ q) := by
  have hp := two_zpow_pos q
  have hgap := halfGap_pos m q
  have hlow : (m - halfGap m q) * (2 : ℚ) ^ q < m * 2 ^ q :=
    mul_lt_mul_of_pos_right (by linarith) hp
  have hhigh : m * (2 : ℚ) ^ q < (m + 1 / 2) * 2 ^ q := mul_lt_mul_of_pos_right (by linarith) hp
  exact ⟨hlow.le, hhigh.le, fun _ => ⟨hlow, hhigh⟩⟩

/-- What rounds to a float is at most half as great again. -/
theorem RoundsTo.le (h : RoundsTo m q x) (hm : 0 < m) : x ≤ 3 / 2 * (m * 2 ^ q) := by
  have hm : (1 : ℚ) ≤ m := by exact_mod_cast hm
  have hp := two_zpow_pos q
  calc x
    _ ≤ (m + 1 / 2) * 2 ^ q := h.high
    _ ≤ (3 / 2 * m) * 2 ^ q := mul_le_mul_of_nonneg_right (by linarith) hp.le
    _ = 3 / 2 * (m * 2 ^ q) := by ring

/-! ## One float -/

/-- Two intervals with one point in common meet at even ends of both. -/
theorem RoundsTo.not_even_of_le (h : RoundsTo m q x) (h' : RoundsTo m' q' x)
    (hends : (m + 1 / 2) * (2 : ℚ) ^ q ≤ (m' - halfGap m' q') * 2 ^ q') :
    m % 2 = 0 ∧ m' % 2 = 0 := by
  have hlow := h'.low
  have hhigh := h.high
  constructor
  · by_contra hodd
    have := (h.strict (by omega)).2
    linarith
  · by_contra hodd
    have := (h'.strict (by omega)).1
    linarith

/-- A number rounds to one float of an exponent. -/
theorem RoundsTo.not_lt (h : RoundsTo m q x) (h' : RoundsTo m' q x) : ¬ m < m' := by
  intro hlt
  have hp := two_zpow_pos q
  have hgap := halfGap_le m' q
  have hm : (m : ℚ) + 1 ≤ m' := by exact_mod_cast hlt
  have hends : (m + 1 / 2) * (2 : ℚ) ^ q ≤ (m' - halfGap m' q) * 2 ^ q :=
    mul_le_mul_of_nonneg_right (by linarith) hp.le
  obtain ⟨heven, heven'⟩ := h.not_even_of_le h' hends
  have hmid : (m' - halfGap m' q) * (2 : ℚ) ^ q ≤ (m + 1 / 2) * 2 ^ q := le_trans h'.low h.high
  have hle : m' - halfGap m' q ≤ (m : ℚ) + 1 / 2 := le_of_mul_le_mul_right hmid hp
  have hsucc : (m' : ℚ) ≤ m + 1 := by linarith
  have hsucc' : m' ≤ m + 1 := by exact_mod_cast hsucc
  omega

/-- The interval of a greater exponent lies above. -/
theorem RoundsTo.exponent_not_lt (h : RoundsTo m q x) (hm : IsCanonical m q)
    (h' : RoundsTo m' q' x) (hm' : IsCanonical m' q') : ¬ q < q' := by
  intro hlt
  have hp := two_zpow_pos q
  have hleast : leastExponent < q' := lt_of_le_of_lt hm.leastExponent_le hlt
  have hnormal : fractionCount ≤ m' := hm'.normal.resolve_right hleast.ne'
  have hdouble : 2 * (2 : ℚ) ^ q ≤ 2 ^ q' := by
    rw [mul_comm, ← zpow_add_one₀ (by norm_num)]
    exact zpow_le_zpow_right₀ (by norm_num) hlt
  have hlow := sub_halfGap_le hnormal hleast
  have hhigh : (m : ℚ) + 1 ≤ 2 * fractionCount := by exact_mod_cast hm.lt
  have hbottom : (2 * (fractionCount - 1 / 4)) * (2 : ℚ) ^ q ≤ (m' - halfGap m' q') * 2 ^ q' := by
    have hpos : (0 : ℚ) ≤ fractionCount - 1 / 4 := by norm_num [fractionCount]
    calc (2 * (fractionCount - 1 / 4)) * (2 : ℚ) ^ q
      _ = (fractionCount - 1 / 4) * (2 * 2 ^ q) := by ring
      _ ≤ (m' - halfGap m' q') * 2 ^ q' := mul_le_mul hlow hdouble (by positivity) (by linarith)
  have hends : (m + 1 / 2) * (2 : ℚ) ^ q ≤ (m' - halfGap m' q') * 2 ^ q' :=
    le_trans (mul_le_mul_of_nonneg_right (by linarith) hp.le) hbottom
  obtain ⟨heven, -⟩ := h.not_even_of_le h' hends
  -- the ends meet only above the greatest mantissa, which is odd
  have hmid : (2 * (fractionCount - 1 / 4)) * (2 : ℚ) ^ q ≤ (m + 1 / 2) * 2 ^ q :=
    le_trans hbottom (le_trans h'.low h.high)
  have hgreatest : 2 * (fractionCount - 1 / 4) ≤ (m : ℚ) + 1 / 2 := le_of_mul_le_mul_right hmid hp
  have hgreatest' : 2 * (fractionCount : ℚ) ≤ m + 1 := by linarith
  have hgreatest'' : 2 * fractionCount ≤ m + 1 := by exact_mod_cast hgreatest'
  have := hm.lt
  omega

/-- **A number rounds to one float only.** -/
theorem RoundsTo.unique (h : RoundsTo m q x) (hm : IsCanonical m q) (h' : RoundsTo m' q' x)
    (hm' : IsCanonical m' q') : m = m' ∧ q = q' := by
  have hq : q = q' := by
    have := h.exponent_not_lt hm h' hm'
    have := h'.exponent_not_lt hm' h hm
    omega
  subst hq
  have := h.not_lt h'
  have := h'.not_lt h
  exact ⟨by omega, rfl⟩

end MarkupPad.FloatParts
