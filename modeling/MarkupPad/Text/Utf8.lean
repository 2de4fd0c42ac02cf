import MarkupPad.Text.Basic

/-!
# The bytes of a text

A buffer keeps its text in UTF-8, and offsets count bytes.  A class of ASCII characters is
looked for byte by byte: a byte is in the class when the character of its number is.

    (utf8 t).length = size t                    (length_utf8)
    utf8 a <+: utf8 t → a <+: t                 (prefix_of_utf8_prefix)
-/

namespace MarkupPad.Text

/-! ## Algorithm -/

/-- The bytes of the UTF-8 form, in order. -/
def utf8 (t : Text) : List UInt8 := t.flatMap String.utf8EncodeChar

/-- Is the character of the byte's number in the class? -/
def byteIn (p : Char → Bool) (b : UInt8) : Bool := p (.ofUInt8 b)

/-- A class of ASCII characters. -/
def AsciiClass (p : Char → Bool) : Prop := ∀ c, p c → c.toNat < 128

/-! ## Lemmas -/

@[simp] theorem utf8_nil : utf8 [] = [] := rfl

@[simp] theorem utf8_cons (c : Char) (t : Text) : utf8 (c :: t) = String.utf8EncodeChar c ++ utf8 t :=
  rfl

theorem utf8_append (a b : Text) : utf8 (a ++ b) = utf8 a ++ utf8 b := List.flatMap_append

@[simp] theorem length_utf8 (t : Text) : (utf8 t).length = size t := by
  induction t with
  | nil => rfl
  | cons c t ih => simp [ih]

theorem toNat_ofUInt8 (b : UInt8) : (Char.ofUInt8 b).toNat = b.toNat := by
  show b.toUInt32.toNat = b.toNat
  simp

/-- An ASCII character is one byte, its own number. -/
theorem utf8EncodeChar_of_ascii {c : Char} (h : c.toNat < 128) :
    ∃ b, String.utf8EncodeChar c = [b] ∧ Char.ofUInt8 b = c := by
  have hc : c.toNat = c.val.toNat := rfl
  refine ⟨UInt8.ofNat c.toNat, ?_, ?_⟩
  · rw [String.utf8EncodeChar, if_pos (by omega)]
    rfl
  · apply Char.ext
    apply UInt32.toNat_inj.1
    show (Char.ofUInt8 (UInt8.ofNat c.toNat)).toNat = c.toNat
    rw [toNat_ofUInt8]
    simp
    omega

theorem le_of_mem_utf8EncodeChar {c : Char} (h : 128 ≤ c.toNat) {b : UInt8}
    (hb : b ∈ String.utf8EncodeChar c) : 128 ≤ (Char.ofUInt8 b).toNat := by
  have hv : ¬ c.val.toNat ≤ 127 := by
    have : c.toNat = c.val.toNat := rfl
    omega
  rw [toNat_ofUInt8]
  simp only [String.utf8EncodeChar, hv, if_false] at hb
  split at hb
  · simp at hb
    rcases hb with rfl | rfl <;> simp <;> omega
  · split at hb
    · simp at hb
      rcases hb with rfl | rfl | rfl <;> simp <;> omega
    · simp at hb
      rcases hb with rfl | rfl | rfl | rfl <;> simp <;> omega

/-- **A byte of a character is in an ASCII class exactly when the character is.** -/
theorem byteIn_of_mem {p : Char → Bool} (hp : AsciiClass p) {c : Char} {b : UInt8}
    (hb : b ∈ String.utf8EncodeChar c) : byteIn p b = p c := by
  by_cases h : c.toNat < 128
  · obtain ⟨b', he, hc⟩ := utf8EncodeChar_of_ascii h
    rw [he, List.mem_singleton] at hb
    rw [hb, byteIn, hc]
  · have hb' := le_of_mem_utf8EncodeChar (Nat.le_of_not_lt h) hb
    have h1 : p c = false := by
      cases hc : p c
      · rfl
      · exact absurd (hp c hc) h
    have h2 : p (.ofUInt8 b) = false := by
      cases hc : p (.ofUInt8 b)
      · rfl
      · have := hp _ hc
        omega
    rw [byteIn, h1, h2]

/-- The bytes of a character tell it apart from all others. -/
theorem utf8EncodeChar_append_inj {c d : Char} {l l' : List UInt8}
    (h : String.utf8EncodeChar c ++ l = String.utf8EncodeChar d ++ l') : c = d ∧ l = l' := by
  have h' := congrArg List.toByteArray h
  simp only [List.toByteArray_append] at h'
  have h1 := ByteArray.utf8DecodeChar?_utf8EncodeChar_append (b := l.toByteArray) (c := c)
  rw [h', ByteArray.utf8DecodeChar?_utf8EncodeChar_append, Option.some.injEq] at h1
  subst h1
  exact ⟨rfl, List.append_cancel_left h⟩

theorem prefix_of_utf8_prefix {a t : Text} (h : utf8 a <+: utf8 t) : a <+: t := by
  induction a generalizing t with
  | nil => exact List.nil_prefix
  | cons c a ih =>
    obtain ⟨r, hr⟩ := h
    cases t with
    | nil =>
      have hl := congrArg List.length hr
      have := c.utf8Size_pos
      simp at hl
      omega
    | cons d t =>
      simp only [utf8_cons, List.append_assoc] at hr
      obtain ⟨rfl, htail⟩ := utf8EncodeChar_append_inj hr
      obtain ⟨s, rfl⟩ := ih ⟨r, htail⟩
      exact ⟨s, rfl⟩

end MarkupPad.Text
