import MarkupPad.Proofs.Float.Rounding
import MarkupPad.Word

/-!
# Floats and their parts

A float is known by its parts, which are canonical, and a float of canonical parts that are not too
great has just these parts.

    ofFloat x = finite s m q → IsCanonical m q ∧ q ≤ 971            (isCanonical_of_ofFloat)
    ofFloat x = finite s m q → ofFloat y = finite s m q → x = y               (eq_of_ofFloat)
    ofFloat (pack (ofParts s m q)) = finite s m q   if IsCanonical m q and q ≤ 971
                                                                                (ofFloat_pack)
-/

namespace MarkupPad.FloatParts

open Float.Model Float.Model.UnpackedFloat Decimal

/-- The parts of a float. -/
def ofFloat (x : Float) : FloatParts := .ofBits x.toBits.toNat

/-! ## Bits -/

section
variable {bits bits' : ℕ} {isNegative : Bool} {m : ℕ} {q : ℤ}

/-- A finite float has an exponent that is not all ones. -/
theorem ofBits_eq_finite (h : ofBits bits = .finite isNegative m q) :
    isNegative = decide (bits / (2048 * fractionCount) = 1) ∧
      ((bits / fractionCount % 2048 = 0 ∧ m = bits % fractionCount ∧ q = leastExponent) ∨
        (0 < bits / fractionCount % 2048 ∧ bits / fractionCount % 2048 < 2047 ∧
          m = fractionCount + bits % fractionCount ∧
            q = (bits / fractionCount % 2048 : ℕ) - 1075)) := by
  unfold ofBits at h
  simp only at h
  have hlt : bits / fractionCount % 2048 < 2048 := Nat.mod_lt _ (by decide)
  split at h
  · split at h <;> cases h
  · split at h
    · next hzero =>
      cases h
      exact ⟨rfl, .inl ⟨hzero, rfl, rfl⟩⟩
    · cases h
      exact ⟨rfl, .inr ⟨by omega, by omega, rfl, rfl⟩⟩

/-- **The parts of a finite float are canonical.** -/
theorem isCanonical_of_ofBits (h : ofBits bits = .finite isNegative m q) :
    IsCanonical m q ∧ q ≤ 971 := by
  have hfraction : bits % fractionCount < fractionCount := Nat.mod_lt _ (by decide)
  obtain ⟨-, ⟨-, rfl, rfl⟩ | ⟨hpos, hlt, rfl, rfl⟩⟩ := ofBits_eq_finite h
  · exact ⟨⟨by omega, le_rfl, .inr rfl⟩, by decide⟩
  · have hleast : leastExponent ≤ (bits / fractionCount % 2048 : ℕ) - 1075 := by
      unfold leastExponent
      omega
    exact ⟨⟨by omega, hleast, .inl (by omega)⟩, by omega⟩

/-- A finite float has only one form. -/
theorem ofBits_inj (h : ofBits bits = .finite isNegative m q)
    (h' : ofBits bits' = .finite isNegative m q) (hlt : bits < Word.limit)
    (hlt' : bits' < Word.limit) : bits = bits' := by
  obtain ⟨hsign, hparts⟩ := ofBits_eq_finite h
  obtain ⟨hsign', hparts'⟩ := ofBits_eq_finite h'
  rw [hsign, decide_eq_decide] at hsign'
  simp only [fractionCount, leastExponent, Word.limit] at *
  omega

end

/-! ## Unpacking -/

/-- The parts of a float that is unpacked. -/
def ofUnpacked : UnpackedFloat → FloatParts
  | .notANumber => .nan
  | .infinity s => .infinite (s == .negative)
  | .zero s => .finite (s == .negative) 0 leastExponent
  | .finite s m e _ => .finite (s == .negative) m e

/-- The sign of a float. -/
def sign (isNegative : Bool) : Sign := if isNegative then .negative else .positive

@[simp] theorem sign_beq (s : Sign) : sign (s == .negative) = s := by
  cases s <;> rfl

theorem toNat_unpackMantissa (b : BitVec 64) :
    (@unpackMantissa Format.binary64 b).toNat = b.toNat % fractionCount := by
  simp [unpackMantissa, fractionCount]

theorem toNat_unpackExponent (b : BitVec 64) :
    (@unpackExponent Format.binary64 b).toNat = b.toNat / fractionCount % 2048 := by
  simp [unpackExponent, fractionCount, Nat.shiftRight_eq_div_pow]

theorem toNat_unpackSign (b : BitVec 64) :
    (@unpackSign Format.binary64 b).toNat = b.toNat / (2048 * fractionCount) := by
  have hlt : b.toNat < 18446744073709551616 := b.isLt
  simp [unpackSign, fractionCount, Nat.shiftRight_eq_div_pow]
  omega

theorem isNegative_unpackSign (b : BitVec 64) :
    (Sign.ofBitVec (@unpackSign Format.binary64 b) == .negative) =
      decide (b.toNat / (2048 * fractionCount) = 1) := by
  rw [← toNat_unpackSign]
  generalize @unpackSign Format.binary64 b = sign
  decide +revert

/-- The bit that is not written. -/
theorem toNat_append_one (b : BitVec 52) : (1#1 ++ b).toNat = fractionCount + b.toNat := by
  rw [BitVec.toNat_append, ← Nat.shiftLeft_add_eq_or_of_lt b.isLt]
  rfl

/-- Unpacking takes a float apart into its parts. -/
theorem ofUnpacked_unpack (b : BitVec 64) :
    ofUnpacked (UnpackedFloat.unpack Format.binary64 b) = .ofBits b.toNat := by
  have hmantissa := toNat_unpackMantissa b
  have hexponent := toNat_unpackExponent b
  have hsign := isNegative_unpackSign b
  have hones : @unpackExponent Format.binary64 b = -1#11 ↔
      b.toNat / fractionCount % 2048 = 2047 := by
    rw [← hexponent, ← BitVec.toNat_inj]
    rfl
  have hzero : @unpackExponent Format.binary64 b = 0#11 ↔
      b.toNat / fractionCount % 2048 = 0 := by
    rw [← hexponent, ← BitVec.toNat_inj]
    rfl
  have hfraction : @unpackMantissa Format.binary64 b = 0#52 ↔
      b.toNat % fractionCount = 0 := by
    rw [← hmantissa, ← BitVec.toNat_inj]
    rfl
  simp only [UnpackedFloat.unpack, ofBits, hones, hzero, ← hsign]
  split
  · simp only [hfraction]
    split <;> rfl
  · split
    · next hsubnormal =>
      split
      · next hnone => rw [ofUnpacked, hfraction.1 hnone]
      · rw [ofUnpacked, hmantissa, hexponent, hsubnormal]
        rfl
    · rw [ofUnpacked, toNat_append_one, hmantissa, hexponent]
      rfl

theorem ofFloat_eq (x : Float) : ofFloat x = ofUnpacked x.toModel.unpack :=
  (ofUnpacked_unpack x.toModel.toBits.toBitVec).symm

/-! ## Packing -/

theorem toNat_append {m n : ℕ} (a : BitVec m) (b : BitVec n) :
    (a ++ b).toNat = a.toNat * 2 ^ n + b.toNat := by
  rw [BitVec.toNat_append, ← Nat.shiftLeft_add_eq_or_of_lt b.isLt, Nat.shiftLeft_eq]

theorem toNat_packComponents (s : Sign) (e : BitVec 11) (b : BitVec 52) :
    (packComponents Format.binary64 s e b).toNat =
      (s.toBitVec.toNat * 2048 + e.toNat) * fractionCount + b.toNat := by
  rw [packComponents, toNat_append, toNat_append]
  rfl

section
variable {m : ℕ} {q : ℤ}

theorem log2_eq_iff (hm : m ≠ 0) (hlt : m < 2 * fractionCount) :
    m.log2 + 1 = 53 ↔ fractionCount ≤ m := by
  have hupper : m.log2 < 53 := (Nat.log2_lt hm).2 hlt
  have hlower : m.log2 < 52 ↔ m < fractionCount := Nat.log2_lt hm
  omega

theorem ofBits_components (s : Sign) {e f : ℕ} (he : e < 2047) (hf : f < fractionCount) :
    ofBits ((s.toBitVec.toNat * 2048 + e) * fractionCount + f) =
      if e = 0 then .finite (s == .negative) f leastExponent
      else .finite (s == .negative) (fractionCount + f) ((e : ℤ) - 1075) := by
  have hdiv : ((s.toBitVec.toNat * 2048 + e) * fractionCount + f) / fractionCount =
      s.toBitVec.toNat * 2048 + e := by
    rw [Nat.mul_comm, Nat.mul_add_div (by decide), Nat.div_eq_of_lt hf, Nat.add_zero]
  have hmod : ((s.toBitVec.toNat * 2048 + e) * fractionCount + f) % fractionCount = f := by
    rw [Nat.mul_comm, Nat.mul_add_mod, Nat.mod_eq_of_lt hf]
  have hexponent : (s.toBitVec.toNat * 2048 + e) % 2048 = e := by omega
  have hsign : decide ((s.toBitVec.toNat * 2048 + e) / 2048 = 1) = (s == .negative) := by
    have : (s.toBitVec.toNat * 2048 + e) / 2048 = s.toBitVec.toNat := by omega
    rw [this]
    cases s <;> rfl
  simp only [ofBits, Nat.mul_comm 2048, ← Nat.div_div_eq_div_mul, hdiv, hmod, hexponent, hsign]
  rw [if_neg (by omega)]

theorem pack_finite (s : Sign) (m : ℕ) (q : ℤ) (hm : 0 < m) :
    UnpackedFloat.pack Format.binary64 (.finite s m q hm) =
      if 2048 ≤ (q + 1023 + 52).toNat + 1 then packedInfinity Format.binary64 s
      else if m.log2 + 1 = 53 then
        packComponents Format.binary64 s (BitVec.ofNat 11 (q + 1023 + 52).toNat) (BitVec.ofNat 52 m)
      else packComponents Format.binary64 s 0#11 (BitVec.ofNat 52 m) := rfl

/-- **Packing loses nothing of a canonical float that is not too great.** -/
theorem ofBits_pack (s : Sign) (hc : IsCanonical m q) (hq : q ≤ 971) :
    ofBits (UnpackedFloat.pack Format.binary64 (ofParts s m q)).toNat =
      .finite (s == .negative) m q := by
  have hleast := hc.leastExponent_le
  rw [leastExponent] at hleast
  have hlt := hc.lt
  unfold ofParts
  by_cases hm : m = 0
  · obtain rfl : q = leastExponent := hc.normal.resolve_left (by rw [hm]; decide)
    subst hm
    cases s <;> rfl
  · have hnormal := log2_eq_iff hm hlt
    have hexponent : (BitVec.ofNat 11 (q + 1023 + 52).toNat).toNat = (q + 1075).toNat := by
      rw [BitVec.toNat_ofNat, Nat.mod_eq_of_lt (by omega)]
      omega
    rw [dif_neg hm, pack_finite, if_neg (by omega)]
    split
    · next hlog =>
      have hge : fractionCount ≤ m := hnormal.1 hlog
      have hfraction : (BitVec.ofNat 52 m).toNat = m - fractionCount := by
        rw [BitVec.toNat_ofNat, show 2 ^ 52 = fractionCount from rfl, Nat.mod_eq_sub_mod hge,
          Nat.mod_eq_of_lt (by omega)]
      have hq : ((q + 1075).toNat : ℤ) - 1075 = q := by omega
      rw [toNat_packComponents, hexponent, hfraction, ofBits_components s (by omega) (by omega),
        if_neg (by omega), Nat.add_sub_cancel' hge, hq]
    · next hlog =>
      have hge : ¬ fractionCount ≤ m := fun h => hlog (hnormal.2 h)
      have hfraction : (BitVec.ofNat 52 m).toNat = m := by
        rw [BitVec.toNat_ofNat, show 2 ^ 52 = fractionCount from rfl, Nat.mod_eq_of_lt (by omega)]
      rw [toNat_packComponents, hfraction, BitVec.toNat_zero,
        ofBits_components s (by decide) (by omega), if_pos rfl, hc.normal.resolve_left hge]

/-- A float is what its parts make. -/
theorem eq_ofParts {u : UnpackedFloat} {isNegative : Bool}
    (h : ofUnpacked u = .finite isNegative m q) : u = ofParts (sign isNegative) m q := by
  cases u with
  | notANumber => cases h
  | infinity => cases h
  | zero s =>
    cases h
    rw [ofParts, dif_pos rfl, sign_beq]
  | finite s m q hpos =>
    cases h
    rw [ofParts, dif_neg hpos.ne', sign_beq]

end

/-! ## Floats -/

variable {x y : Float} {isNegative : Bool} {m : ℕ} {q : ℤ}

theorem ofFloat_pack (s : Sign) (hc : IsCanonical m q) (hq : q ≤ 971) :
    ofFloat (.ofModel (.pack (ofParts s m q))) = .finite (s == .negative) m q :=
  ofBits_pack s hc hq

theorem unpack_eq (h : ofFloat x = .finite isNegative m q) :
    x.toModel.unpack = ofParts (sign isNegative) m q := by
  rw [ofFloat_eq] at h
  exact eq_ofParts h

theorem isCanonical_of_ofFloat (h : ofFloat x = .finite isNegative m q) :
    IsCanonical m q ∧ q ≤ 971 :=
  isCanonical_of_ofBits h

/-- **A finite float is known by its parts.** -/
theorem eq_of_ofFloat (h : ofFloat x = .finite isNegative m q)
    (h' : ofFloat y = .finite isNegative m q) : x = y := by
  have hbits := ofBits_inj h h' x.toBits.toNat_lt y.toBits.toNat_lt
  obtain ⟨⟨bits, _⟩⟩ := x
  obtain ⟨⟨bits', _⟩⟩ := y
  obtain rfl : bits = bits' := UInt64.toNat_inj.1 hbits
  rfl

theorem isFinite_iff : x.isFinite ↔ ∃ isNegative m q, ofFloat x = .finite isNegative m q := by
  rw [ofFloat_eq]
  change x.toModel.unpack.isFinite ↔ _
  cases x.toModel.unpack <;> simp [ofUnpacked, UnpackedFloat.isFinite]

theorem isInf_eq_false (h : ofFloat x = .finite isNegative m q) : x.isInf = false := by
  rw [ofFloat_eq] at h
  change x.toModel.unpack.isInf = false
  cases hu : x.toModel.unpack <;> rw [hu] at h <;> first | rfl | cases h

theorem ofFloat_neg (h : ofFloat x = .finite isNegative m q) :
    ofFloat (-x) = .finite (!isNegative) m q := by
  obtain ⟨hc, hq⟩ := isCanonical_of_ofFloat h
  have hneg : (ofParts (sign isNegative) m q).neg = ofParts (-sign isNegative) m q := by
    unfold ofParts
    split <;> rfl
  have hpack := ofFloat_pack (-sign isNegative) hc hq
  rw [← hneg, ← unpack_eq h] at hpack
  refine hpack.trans ?_
  cases isNegative <;> rfl

theorem ofFloat_nan : ofFloat (.ofModel (.pack .notANumber)) = .nan := by decide

theorem ofFloat_infinity (s : Sign) :
    ofFloat (.ofModel (.pack (.infinity s))) = .infinite (s == .negative) := by
  cases s <;> decide

theorem ofFloat_of_neg (h : ofFloat (-x) = .finite isNegative m q) :
    ofFloat x = .finite (!isNegative) m q := by
  by_cases hfinite : x.isFinite
  · obtain ⟨isNegative', m', q', hx⟩ := isFinite_iff.1 hfinite
    rw [ofFloat_neg hx] at h
    cases h
    rw [hx, Bool.not_not]
  · change ofFloat (.ofModel (.pack x.toModel.unpack.neg)) = _ at h
    change ¬ x.toModel.unpack.isFinite at hfinite
    cases hu : x.toModel.unpack with
    | notANumber =>
      rw [hu] at h
      cases ofFloat_nan.symm.trans h
    | infinity s =>
      rw [hu] at h
      cases (ofFloat_infinity (-s)).symm.trans h
    | zero => exact absurd (hu ▸ rfl) hfinite
    | finite => exact absurd (hu ▸ rfl) hfinite

theorem ofFloat_abs (h : ofFloat x = .finite isNegative m q) :
    ofFloat x.abs = .finite false m q := by
  obtain ⟨hc, hq⟩ := isCanonical_of_ofFloat h
  have habs : (ofParts (sign isNegative) m q).abs = ofParts .positive m q := by
    unfold ofParts
    split <;> rfl
  have hpack := ofFloat_pack .positive hc hq
  rw [← habs, ← unpack_eq h] at hpack
  exact hpack

end MarkupPad.FloatParts
