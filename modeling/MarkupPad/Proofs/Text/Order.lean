import Mathlib.Tactic.SplitIfs
import MarkupPad.Text.Utf8

/-!
# The order of texts is the order of their bytes

UTF-8 keeps the order of characters: a greater character has a greater first byte, or the same
number of bytes and the first different one of them greater.  So texts are in the order of their
bytes.

    c < d → utf8EncodeChar c ++ l < utf8EncodeChar d ++ l'         (utf8EncodeChar_append_lt)
    utf8 s < utf8 t ↔ s < t                                                     (utf8_lt_iff)
-/

namespace MarkupPad.Text

theorem ofNat_cons_lt_cons_iff {m n : Nat} (hm : m < 256) (hn : n < 256) (l l' : List UInt8) :
    UInt8.ofNat m :: l < UInt8.ofNat n :: l' ↔ m < n ∨ m = n ∧ l < l' := by
  rw [List.cons_lt_cons_iff, UInt8.lt_iff_toNat_lt, ← UInt8.toNat_inj, UInt8.toNat_ofNat_of_lt' hm,
    UInt8.toNat_ofNat_of_lt' hn]

theorem append_lt_append_iff (l l' l'' : List UInt8) : l ++ l' < l ++ l'' ↔ l' < l'' := by
  induction l with
  | nil => rfl
  | cons b l ih => rw [List.cons_append, List.cons_append, List.cons_lt_cons_self, ih]

/-- **A smaller character has smaller bytes,** whatever follows. -/
theorem utf8EncodeChar_append_lt {c d : Char} (h : c < d) (l l' : List UInt8) :
    String.utf8EncodeChar c ++ l < String.utf8EncodeChar d ++ l' := by
  have hlt : c.val.toNat < d.val.toNat := h
  have hmax : d.val.toNat < 0x110000 := by
    rcases d.valid with hd | hd <;> omega
  simp only [String.utf8EncodeChar]
  generalize c.val.toNat = m at hlt
  generalize d.val.toNat = n at hlt hmax
  -- the bytes are the digits to the base 64, found by one division after the other
  have hdigits (k : Nat) : k / 4096 = k / 64 / 64 ∧ k / 262144 = k / 64 / 64 / 64 := by omega
  simp only [(hdigits _).1, (hdigits _).2]
  -- one case for each number of bytes of either; the longer one never comes first
  split_ifs <;> simp (disch := omega) only [List.cons_append, List.nil_append,
    ofNat_cons_lt_cons_iff] <;> omega

/-- **Texts are in the order of their bytes.** -/
theorem utf8_lt_iff {s t : Text} : utf8 s < utf8 t ↔ s < t := by
  induction s generalizing t with
  | nil =>
    cases t with
    | nil => exact iff_of_false (List.not_lt_nil _) (List.not_lt_nil _)
    | cons d t =>
      have hsize : 0 < (utf8 (d :: t)).length := by
        have := d.utf8Size_pos
        rw [length_utf8, size_cons]
        omega
      obtain ⟨b, l, hbytes⟩ := List.exists_cons_of_length_pos hsize
      rw [hbytes]
      exact iff_of_true (List.nil_lt_cons b l) (List.nil_lt_cons d t)
  | cons c s ih =>
    cases t with
    | nil => exact iff_of_false (List.not_lt_nil _) (List.not_lt_nil _)
    | cons d t =>
      rcases Std.lt_trichotomy c d with hlt | rfl | hgt
      · exact iff_of_true (utf8EncodeChar_append_lt hlt _ _) (List.cons_lt_cons_iff.2 (.inl hlt))
      · rw [List.cons_lt_cons_self, ← ih, utf8_cons, utf8_cons, append_lt_append_iff]
      · refine iff_of_false ?_ ?_
        · exact List.lt_asymm (utf8EncodeChar_append_lt hgt _ _)
        · exact List.lt_asymm (List.cons_lt_cons_iff.2 (.inl hgt))

end MarkupPad.Text
