import Mathlib.Data.List.Induction
import MarkupPad.Buffer.Offset
import MarkupPad.Proofs.Text.Boundary
import MarkupPad.Shorthand

/-!
# Runs of bytes are runs of characters

A byte of a character that is not ASCII is in no ASCII class.  So a run of bytes of such a
class ends where the run of characters ends, and a byte of it stands at a boundary.

    runStart? (utf8 (t ++ r)) p (size t) = some (size (splitTrailing p t).1)      (runStart?_utf8)
    runLength? (utf8 (a ++ t)) p (size a) = some (size (t.takeWhile p))           (runLength?_utf8)
    holdsAt (utf8 t) (· = c) i ↔ ∃ a b, t = a ++ c :: b ∧ size a = i              (holdsAt_utf8_iff)
    afterLast c t = size (splitTrailing (· != c) t).1                             (afterLast_eq)
-/

namespace MarkupPad

namespace Text

/-! ## ASCII classes -/

theorem AsciiClass.or {p q : Char → Bool} (hp : AsciiClass p) (hq : AsciiClass q) :
    AsciiClass fun c => p c || q c := by
  intro c h
  rcases Bool.or_eq_true_iff.1 h with h | h
  · exact hp c h
  · exact hq c h

theorem asciiClass_eq {d : Char} (h : d.toNat < 128) : AsciiClass (· = d) := by
  intro c hc
  rw [of_decide_eq_true hc]
  exact h

/-- A range of characters is ASCII when its last one is. -/
theorem asciiClass_range {a d : Char} (h : d.toNat < 128) : AsciiClass fun c => a ≤ c && c ≤ d := by
  intro c hc
  simp only [Bool.and_eq_true, decide_eq_true_eq] at hc
  have hle : c.toNat ≤ d.toNat := UInt32.le_iff_toNat_le.1 hc.2
  omega

theorem asciiClass_isUpper : AsciiClass Char.isUpper := by
  intro c h
  have hle : c.toNat ≤ 'Z'.toNat := UInt32.le_iff_toNat_le.1 (of_decide_eq_true h).2
  exact Nat.lt_of_le_of_lt hle (by decide)

theorem asciiClass_isAlpha : AsciiClass Char.isAlpha :=
  asciiClass_isUpper.or (asciiClass_range (a := 'a') (d := 'z') (by decide))

theorem asciiClass_isAlphanum : AsciiClass Char.isAlphanum :=
  asciiClass_isAlpha.or (asciiClass_range (a := '0') (d := '9') (by decide))

theorem asciiClass_isNameChar : AsciiClass Element.isNameChar :=
  asciiClass_isAlpha.or (asciiClass_range (by decide))

theorem asciiClass_isAttributeChar : AsciiClass Token.isAttributeChar :=
  asciiClass_isAlphanum.or (asciiClass_eq (by decide))

theorem asciiClass_isSelectorChar : AsciiClass Shorthand.isSelectorChar :=
  (asciiClass_isAlphanum.or (asciiClass_eq (by decide))).or (asciiClass_eq (by decide))

theorem asciiClass_isMark : AsciiClass Shorthand.isMark :=
  (asciiClass_eq (by decide)).or (asciiClass_eq (by decide))

theorem asciiClass_isAsciiBlank : AsciiClass isAsciiBlank :=
  ((((asciiClass_eq (by decide)).or (asciiClass_eq (by decide))).or
    (asciiClass_eq (by decide))).or (asciiClass_eq (by decide))).or (asciiClass_eq (by decide))

/-- A blank is in no class that has none of the ASCII blanks. -/
theorem AsciiClass.eq_false_of_isBlank {p : Char → Bool} (hp : AsciiClass p)
    (h : ∀ n < 128, p (Char.ofNat n) → !isBlank (Char.ofNat n)) {c : Char} (hc : isBlank c) :
    p c = false := by
  by_contra hin
  rw [Bool.not_eq_false] at hin
  have hno := h c.toNat (hp c hin)
  rw [Char.ofNat_toNat, hc] at hno
  exact absurd (hno hin) (by decide)

theorem utf8Size_of_ascii {c : Char} (h : c.toNat < 128) : c.utf8Size = 1 := by
  obtain ⟨b, hb, -⟩ := utf8EncodeChar_of_ascii h
  rw [← String.length_utf8EncodeChar, hb]
  rfl

/-- The marks that texts are cut at are one byte wide. -/
@[simp] theorem utf8Size_marks :
    '<'.utf8Size = 1 ∧ '>'.utf8Size = 1 ∧ '/'.utf8Size = 1 ∧ '\n'.utf8Size = 1 :=
  ⟨rfl, rfl, rfl, rfl⟩

/-! ## The run at the end of a text -/

section
variable (p : Char → Bool)

@[simp] theorem splitTrailing_nil : splitTrailing p [] = ([], []) := rfl

theorem splitTrailing_concat (t : Text) (c : Char) :
    splitTrailing p (t ++ [c]) =
      if p c then ((splitTrailing p t).1, (splitTrailing p t).2 ++ [c]) else (t ++ [c], []) := by
  by_cases h : p c
  · simp [splitTrailing, h]
  · simp [splitTrailing, h]

theorem all_splitTrailing (t : Text) : ∀ c ∈ (splitTrailing p t).2, p c := by
  intro c hc
  rw [splitTrailing, List.mem_reverse] at hc
  exact List.all_eq_true.1 List.all_takeWhile c hc

theorem eq_append_of_splitTrailing {t head run : Text} (h : splitTrailing p t = (head, run)) :
    t = head ++ run := by
  rw [← splitTrailing_append p t, h]

/-- There is no run at the end just when the last character is not of the class. -/
theorem splitTrailing_snd_eq_nil_iff (t : Text) :
    (splitTrailing p t).2 = [] ↔ ∀ c ∈ t.getLast?, ¬ p c := by
  rcases List.eq_nil_or_concat t with rfl | ⟨t, c, rfl⟩
  · simp
  · rw [List.concat_eq_append, splitTrailing_concat]
    by_cases h : p c
    · simp [h]
    · simp [h]

theorem getLast?_splitTrailing {t : Text} {c : Char} (h : (splitTrailing p t).1.getLast? = some c) :
    p c = false := by
  rw [splitTrailing, List.getLast?_reverse] at h
  have := List.head?_dropWhile_not p t.reverse
  rw [h] at this
  simpa using this

/-- The run at the end is the only one of the class with nothing of the class before it. -/
theorem splitTrailing_append_of_all {a b : Text} (ha : ∀ c, a.getLast? = some c → p c = false)
    (hb : ∀ c ∈ b, p c) : splitTrailing p (a ++ b) = (a, b) := by
  have hb' : ∀ c ∈ b.reverse, p c := fun c hc => hb c (List.mem_reverse.1 hc)
  have ha' : a.reverse.dropWhile p = a.reverse ∧ a.reverse.takeWhile p = [] := by
    cases h : a.reverse with
    | nil => simp
    | cons c r =>
      have hc := ha c (by rw [List.getLast?_eq_head?_reverse, h]; rfl)
      simp [hc]
  rw [splitTrailing, List.reverse_append, List.dropWhile_append_of_pos hb',
    List.takeWhile_append_of_pos hb', ha'.1, ha'.2]
  simp

/-- What is all of a class does not reach over a character that is not of it. -/
theorem suffix_of_all {before t run : Text} (hb : ∀ c ∈ before.getLast?, p c = false)
    (hrun : ∀ c ∈ run, p c) (h : run <:+ before ++ t) : run <:+ t := by
  rcases List.suffix_or_suffix_of_suffix h (List.suffix_append before t) with h' | ⟨left, rfl⟩
  · exact h'
  · rcases List.eq_nil_or_concat left with rfl | ⟨left, c, rfl⟩
    · exact List.suffix_rfl
    · obtain ⟨head, hhead⟩ := h
      rw [← List.append_assoc, List.append_cancel_right_eq] at hhead
      have hno := hb c (by simp [← hhead])
      rw [hrun c (by simp)] at hno
      cases hno

end

/-! ## Bytes at offsets -/

theorem getElem?_utf8_append (a b : Text) (i : Nat) :
    (utf8 (a ++ b))[size a + i]? = (utf8 b)[i]? := by
  rw [utf8_append, List.getElem?_append_right]
  · rw [length_utf8, Nat.add_sub_cancel_left]
  · rw [length_utf8]
    omega

theorem take_utf8_append (a b : Text) : (utf8 (a ++ b)).take (size a) = utf8 a := by
  rw [utf8_append, ← length_utf8 a, List.take_left]

theorem drop_utf8_append (a b : Text) : (utf8 (a ++ b)).drop (size a) = utf8 b := by
  rw [utf8_append, ← length_utf8 a, List.drop_left]

/-- The first byte of a character. -/
theorem utf8EncodeChar_eq_cons {p : Char → Bool} (hp : AsciiClass p) (c : Char) :
    ∃ b l, String.utf8EncodeChar c = b :: l ∧ byteIn p b = p c := by
  have hpos := c.utf8Size_pos
  rw [← String.length_utf8EncodeChar] at hpos
  obtain ⟨b, l, h⟩ := List.exists_cons_of_length_pos hpos
  exact ⟨b, l, h, byteIn_of_mem hp (by simp [h])⟩

/-- The byte before a boundary is the last one of a character. -/
theorem getElem?_utf8_pred {p : Char → Bool} (hp : AsciiClass p) (a : Text) (c : Char) (b : Text) :
    ∃ n x, size (a ++ [c]) = n + 1 ∧ (utf8 (a ++ [c] ++ b))[n]? = some x ∧ byteIn p x = p c := by
  have hpos := c.utf8Size_pos
  have hlt : c.utf8Size - 1 < (String.utf8EncodeChar c).length := by
    rw [String.length_utf8EncodeChar]
    omega
  refine ⟨size a + (c.utf8Size - 1), (String.utf8EncodeChar c)[c.utf8Size - 1], ?_, ?_, ?_⟩
  · simp
    omega
  · rw [List.append_assoc, getElem?_utf8_append, List.singleton_append, utf8_cons,
      List.getElem?_append_left hlt, List.getElem?_eq_getElem hlt]
  · exact byteIn_of_mem hp (List.getElem_mem hlt)

theorem takeWhile_utf8 {p : Char → Bool} (hp : AsciiClass p) (t : Text) :
    (utf8 t).takeWhile (byteIn p) = utf8 (t.takeWhile p) := by
  induction t with
  | nil => rfl
  | cons c t ih =>
    by_cases hc : p c
    · have hall : ∀ b ∈ String.utf8EncodeChar c, byteIn p b := by
        intro b hb
        rw [byteIn_of_mem hp hb, hc]
      rw [utf8_cons, List.takeWhile_append_of_pos hall, ih, List.takeWhile_cons_of_pos hc, utf8_cons]
    · obtain ⟨b, l, h, hb⟩ := utf8EncodeChar_eq_cons hp c
      rw [utf8_cons, h, List.cons_append, List.takeWhile_cons_of_neg (by rw [hb]; exact hc),
        List.takeWhile_cons_of_neg hc, utf8_nil]

end Text

open Text

namespace Buffer

/-! ## Single bytes -/

/-- The byte at a boundary, of a class of ASCII characters, is there when a character of the
class is. -/
theorem holdsAt_utf8_append {p : Char → Bool} (hp : AsciiClass p) (a b : Text) :
    holdsAt (utf8 (a ++ b)) p (size a) = b.head?.any p := by
  have h := getElem?_utf8_append a b 0
  rw [Nat.add_zero] at h
  rw [holdsAt, h]
  cases b with
  | nil => rfl
  | cons c b =>
    obtain ⟨d, l, hc, hd⟩ := utf8EncodeChar_eq_cons hp c
    simp [hc, hd]

/-- **An ASCII byte is a character, and stands at a boundary.** -/
theorem holdsAt_utf8_iff {c : Char} (hc : c.toNat < 128) {t : Text} {i : Nat} :
    holdsAt (utf8 t) (· = c) i ↔ ∃ a b, t = a ++ c :: b ∧ size a = i := by
  constructor
  · intro h
    induction t generalizing i with
    | nil => simp [holdsAt] at h
    | cons d t ih =>
      by_cases hi : i < d.utf8Size
      · obtain ⟨b, hb, hd⟩ : ∃ b, (String.utf8EncodeChar d)[i]? = some b ∧ byteIn (· = c) b := by
          rw [holdsAt, utf8_cons, List.getElem?_append_left (by simpa using hi)] at h
          exact (Option.any_eq_true _ _).1 h
        rw [byteIn_of_mem (asciiClass_eq hc) (List.mem_of_getElem? hb)] at hd
        have hdc := of_decide_eq_true hd
        subst hdc
        rw [utf8Size_of_ascii hc] at hi
        exact ⟨[], t, rfl, by simp; omega⟩
      · have h' : holdsAt (utf8 t) (· = c) (i - d.utf8Size) := by
          rw [holdsAt, utf8_cons, List.getElem?_append_right (by simpa using hi)] at h
          simpa [holdsAt] using h
        obtain ⟨a, b, rfl, ha⟩ := ih h'
        exact ⟨d :: a, b, rfl, by simp; omega⟩
  · rintro ⟨a, b, rfl, rfl⟩
    rw [holdsAt_utf8_append (asciiClass_eq hc)]
    simp

/-! ## Runs -/

theorem runStart?_of_all {bytes : List UInt8} {p : Char → Bool} {l : List UInt8} {n : Nat}
    (h : ∀ i, i < l.length → bytes[n + i]? = l[i]?) (hl : ∀ b ∈ l, byteIn p b) :
    runStart? bytes p (n + l.length) = runStart? bytes p n := by
  induction l using List.reverseRecOn with
  | nil => rfl
  | append_singleton l b ih =>
    have hb : bytes[n + l.length]? = some b := by
      rw [h l.length (by simp)]
      simp
    have hstep : runStart? bytes p (n + (l ++ [b]).length) = runStart? bytes p (n + l.length) := by
      rw [List.length_append, List.length_singleton, ← Nat.add_assoc, runStart?, hb]
      simp only [hl b (by simp), if_true]
    rw [hstep]
    refine ih (fun i hi => ?_) (fun b' hb' => hl b' (by simp [hb']))
    rw [h i (by simp; omega), List.getElem?_append_left hi]

/-- **The run of bytes that ends at a boundary is the run of characters that ends there.** -/
theorem runStart?_utf8 {p : Char → Bool} (hp : AsciiClass p) (t r : Text) :
    runStart? (utf8 (t ++ r)) p (size t) = some (size (splitTrailing p t).1) := by
  induction t using List.reverseRecOn generalizing r with
  | nil => rfl
  | append_singleton t c ih =>
    rw [splitTrailing_concat]
    by_cases hc : p c
    · have hat : ∀ i, i < (String.utf8EncodeChar c).length →
          (utf8 (t ++ [c] ++ r))[size t + i]? = (String.utf8EncodeChar c)[i]? := by
        intro i hi
        rw [List.append_assoc, getElem?_utf8_append, List.singleton_append, utf8_cons,
          List.getElem?_append_left hi]
      have hall : ∀ b ∈ String.utf8EncodeChar c, byteIn p b := by
        intro b hb
        rw [byteIn_of_mem hp hb, hc]
      have hsize : size (t ++ [c]) = size t + (String.utf8EncodeChar c).length := by simp
      rw [hsize, runStart?_of_all hat hall, if_pos hc, List.append_assoc]
      exact ih _
    · -- the last byte of the character ends the walk at once
      obtain ⟨n, x, hn, hx, hb⟩ := getElem?_utf8_pred hp t c r
      rw [hn, runStart?, hx, if_neg hc, hn]
      simp only [hb, hc, Bool.false_eq_true, if_false]

/-- The run of bytes that begins at a boundary is the run of characters that begins there. -/
theorem runLength?_utf8 {p : Char → Bool} (hp : AsciiClass p) (a t : Text) :
    runLength? (utf8 (a ++ t)) p (size a) = some (size (t.takeWhile p)) := by
  have h : size a ≤ (utf8 (a ++ t)).length := by
    rw [length_utf8, size_append]
    omega
  rw [runLength?, if_pos h, drop_utf8_append, takeWhile_utf8 hp, length_utf8]

/-! ## The offsets of a character -/

section
variable (mark : Char)

theorem offsetsFrom_append (pos : Nat) (a b : Text) :
    offsetsFrom mark pos (a ++ b) = offsetsFrom mark pos a ++ offsetsFrom mark (pos + size a) b := by
  induction a generalizing pos with
  | nil => simp [offsetsFrom]
  | cons c a ih =>
    rw [List.cons_append, offsetsFrom, offsetsFrom, ih, size_cons, Nat.add_assoc]
    split
    · rfl
    · rfl

theorem map_offsetsFrom (k pos : Nat) (t : Text) :
    (offsetsFrom mark pos t).map (k + ·) = offsetsFrom mark (k + pos) t := by
  induction t generalizing pos with
  | nil => rfl
  | cons c t ih =>
    unfold offsetsFrom
    split
    · rw [List.map_cons, ih, Nat.add_assoc]
    · rw [ih, Nat.add_assoc]

end

/-- The first of the marks stands after all characters that are no mark. -/
theorem find?_eq (mark : Char) (t : Text) :
    find? mark t =
      if t.dropWhile (· != mark) = [] then none else some (size (t.takeWhile (· != mark))) := by
  have h : ∀ pos, (offsetsFrom mark pos t).head? =
      if t.dropWhile (· != mark) = [] then none
      else some (pos + size (t.takeWhile (· != mark))) := by
    induction t with
    | nil =>
      intro pos
      rfl
    | cons c t ih =>
      intro pos
      unfold offsetsFrom
      by_cases hc : c = mark
      · simp [hc]
      · simp [hc, ih, Nat.add_assoc]
  rw [find?, h]
  simp

/-- What follows the last mark is the run without marks at the end. -/
theorem afterLast_eq {mark : Char} (hm : mark.toNat < 128) (t : Text) :
    afterLast mark t = size (splitTrailing (· != mark) t).1 := by
  induction t using List.reverseRecOn with
  | nil => rfl
  | append_singleton t c ih =>
    rw [splitTrailing_concat]
    by_cases hc : c = mark
    · subst hc
      simp [afterLast, findLast?, offsetsFrom_append, offsetsFrom, utf8Size_of_ascii hm]
    · simp only [afterLast, findLast?] at ih
      simp [afterLast, findLast?, offsetsFrom_append, offsetsFrom, hc, ih]

end Buffer

end MarkupPad
