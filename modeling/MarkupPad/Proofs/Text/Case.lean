import MarkupPad.Proofs.Buffer.Run
import MarkupPad.Text.Ascii
import MarkupPad.Text.LowerCase

/-!
# ASCII case

Making a text small changes ASCII capitals only.  So it changes no size, and the bytes of the
small text are the bytes of the text made small one by one.

    Same a b → size a = size b                                             (Same.size_eq)
    (utf8 t).map (toLower ∘ ofUInt8) = (utf8 (asciiLower t)).map ofUInt8   (map_toLower_utf8)
    (dropName? name t).isSome ↔ asciiLower name <+: asciiLower t           (isSome_dropName?_iff)
    (∀ c ∈ t, c.toNat < 128) → lower t = asciiLower t                            (lower_of_ascii)
-/

namespace MarkupPad

namespace Text

/-! ## ASCII case -/

theorem toNat_toLower_lt_iff {c : Char} : c.toLower.toNat < 128 ↔ c.toNat < 128 := by
  have e : c.toNat = c.val.toNat := rfl
  unfold Char.toLower
  split
  · next h =>
    have hlow := UInt32.le_iff_toNat_le.1 h.1
    have hhigh := UInt32.le_iff_toNat_le.1 h.2
    have hsum : (c.val + ('a'.val - 'A'.val)).toNat = c.val.toNat + 32 := by
      rw [UInt32.toNat_add]
      simp at hhigh ⊢
      omega
    show (c.val + ('a'.val - 'A'.val)).toNat < 128 ↔ _
    simp at hhigh
    omega
  · exact Iff.rfl

/-- Beyond ASCII there is no case. -/
theorem toLower_of_not_ascii {c : Char} (h : ¬ c.toNat < 128) : c.toLower = c := by
  have e : c.toNat = c.val.toNat := rfl
  unfold Char.toLower
  split
  · next hupper =>
    have hhigh := UInt32.le_iff_toNat_le.1 hupper.2
    simp at hhigh
    omega
  · rfl

theorem utf8Size_toLower (c : Char) : c.toLower.utf8Size = c.utf8Size := by
  by_cases h : c.toNat < 128
  · rw [utf8Size_of_ascii h, utf8Size_of_ascii (toNat_toLower_lt_iff.2 h)]
  · rw [toLower_of_not_ascii h]

theorem size_asciiLower (t : Text) : size (asciiLower t) = size t := by
  induction t with
  | nil => rfl
  | cons c t ih => rw [asciiLower_cons, size_cons, size_cons, utf8Size_toLower, ih]

/-- Two spellings of a name are equally long. -/
theorem Same.size_eq {a b : Text} (h : Same a b) : size a = size b := by
  rw [← size_asciiLower a, h, size_asciiLower]

theorem size_of_ascii {t : Text} (h : ∀ c ∈ t, c.toNat < 128) : size t = t.length := by
  induction t with
  | nil => rfl
  | cons c t ih =>
    rw [size_cons, utf8Size_of_ascii (h c List.mem_cons_self),
      ih fun d hd => h d (List.mem_cons_of_mem c hd), List.length_cons]
    omega

theorem toLower_of_isLower {c : Char} (h : c.isLower) : c.toLower = c := by
  unfold Char.isLower at h
  simp only [Bool.and_eq_true, decide_eq_true_eq] at h
  have hlow := UInt32.le_iff_toNat_le.1 h.1
  unfold Char.toLower
  split
  · next hupper =>
    have hhigh := UInt32.le_iff_toNat_le.1 hupper.2
    simp at hlow hhigh
    omega
  · rfl

/-- Small letters stay as they are. -/
theorem asciiLower_of_isLower {t : Text} (h : ∀ c ∈ t, c.isLower) : asciiLower t = t := by
  rw [asciiLower, List.map_congr_left fun c hc => toLower_of_isLower (h c hc)]
  exact List.map_id' t

/-- Only letters have small letters. -/
theorem isAlpha_of_isLower_toLower {c : Char} (h : c.toLower.isLower) : c.isAlpha := by
  unfold Char.isAlpha
  rw [Bool.or_eq_true_iff]
  by_cases hupper : c.isUpper
  · exact Or.inl hupper
  · right
    unfold Char.toLower at h
    rw [dif_neg] at h
    · exact h
    · unfold Char.isUpper at hupper
      simpa using hupper

/-- Within ASCII the lower-case form is found letter by letter. -/
theorem lower_of_ascii {t : Text} (h : ∀ c ∈ t, c.toNat < 128) : lower t = asciiLower t := by
  have hsigma : 'Σ' ∉ t := fun hc => absurd (h _ hc) (by decide)
  rw [lower, lowerAfter_of_not_mem hsigma]
  induction t with
  | nil => rfl
  | cons c t ih =>
    obtain ⟨hc, ht⟩ := List.forall_mem_cons.1 h
    have hdotted : c ≠ 'İ' := by
      rintro rfl
      exact absurd hc (by decide)
    rw [List.flatMap_cons, ih ht fun hmem => hsigma (List.mem_cons_of_mem c hmem), lowerChar,
      if_neg hdotted, smallLetter, if_pos hc]
    rfl

/-! ## Case byte by byte -/

theorem ofUInt8_injective : Function.Injective Char.ofUInt8 := by
  intro a b h
  apply UInt8.toNat_inj.1
  rw [← toNat_ofUInt8, h, toNat_ofUInt8]

theorem utf8_prefix_iff {a t : Text} : utf8 a <+: utf8 t ↔ a <+: t := by
  constructor
  · exact prefix_of_utf8_prefix
  · rintro ⟨r, rfl⟩
    exact ⟨utf8 r, (utf8_append a r).symm⟩

/-- The bytes made small one by one are the bytes of the text made small: beyond ASCII neither
changes anything. -/
theorem map_toLower_utf8 (t : Text) :
    (utf8 t).map (fun b => (Char.ofUInt8 b).toLower) = (utf8 (asciiLower t)).map Char.ofUInt8 := by
  induction t with
  | nil => rfl
  | cons c t ih =>
    rw [utf8_cons, List.map_append, ih, asciiLower_cons, utf8_cons, List.map_append]
    congr 1
    by_cases hc : c.toNat < 128
    · obtain ⟨x, hx, hxc⟩ := utf8EncodeChar_of_ascii hc
      obtain ⟨y, hy, hyc⟩ := utf8EncodeChar_of_ascii (toNat_toLower_lt_iff.2 hc)
      simp [hx, hy, hxc, hyc]
    · rw [toLower_of_not_ascii hc]
      refine List.map_congr_left fun b hb => toLower_of_not_ascii ?_
      have := le_of_mem_utf8EncodeChar (Nat.le_of_not_lt hc) hb
      omega

theorem isSome_dropName?_iff {name t : Text} :
    (dropName? name t).isSome ↔ asciiLower name <+: asciiLower t := by
  rw [Option.isSome_iff_exists]
  constructor
  · rintro ⟨rest, h⟩
    obtain ⟨typed, rfl, hs⟩ := dropName?_eq_some_iff.1 h
    exact ⟨asciiLower rest, by rw [← hs, asciiLower, asciiLower, asciiLower, List.map_append]⟩
  · rintro ⟨rest, h⟩
    obtain ⟨typed, rest, rfl, hs, -⟩ := List.append_eq_map_iff.1 h
    exact ⟨rest, dropName?_eq_some_iff.2 ⟨typed, rfl, hs⟩⟩

end Text

end MarkupPad
