import MarkupPad.Buffer.Shorthand
import MarkupPad.Proofs.Buffer.Run

/-!
# Shorthand of a buffer is shorthand of its text

The selectors before the caret are found backwards on the bytes as on the reversed
characters, and what the shorthand spells is read without a wrong cut.

    shorthand? before = some (Shorthand.token? before)              (shorthand?_eq)
    ofToken? token = some (Shorthand.ofToken token)                 (ofToken?_eq)
-/

namespace MarkupPad

open Text

namespace Text

@[simp] theorem size_reverse (t : Text) : size t.reverse = size t := by
  induction t with
  | nil => rfl
  | cons c t ih =>
    rw [List.reverse_cons, size_append, ih]
    simp [Nat.add_comm]

/-- What ends the reversed text begins the text. -/
theorem reverse_append_drop {r t : Text} (h : r <:+ t.reverse) :
    r.reverse ++ t.drop r.length = t := by
  obtain ⟨s, hs⟩ := h
  have ht : t = r.reverse ++ s.reverse := by
    rw [← List.reverse_append, hs, List.reverse_reverse]
  rw [ht, List.drop_left' List.length_reverse]

end Text

namespace Shorthand

theorem dropSelectors_suffix (t : Text) : dropSelectors t <:+ t := by
  fun_induction dropSelectors t with
  | case1 t => exact List.suffix_refl t
  | case2 t mark rest h _ ih =>
    have hrest : mark :: rest <:+ t := by
      rw [← h]
      exact List.dropWhile_suffix _
    exact ih.trans ((List.suffix_cons mark rest).trans hrest)
  | case3 t => exact List.suffix_refl t

theorem dropWhile_dropSelectors_suffix (t : Text) :
    (dropSelectors t).dropWhile Char.isAlphanum <:+ t :=
  (List.dropWhile_suffix _).trans (dropSelectors_suffix t)

/-- The shorthand is the end of the text before the caret. -/
theorem token?_suffix {before : Text} {token : Token} (h : token? before = some token) :
    ∃ a, before = a ++ token.text ∧ token.start = size a := by
  unfold token? at h
  simp only at h
  split at h
  · cases h
    have hcut := reverse_append_drop (dropWhile_dropSelectors_suffix before.reverse)
    exact ⟨_, hcut.symm, (size_reverse _).symm⟩
  · cases h

end Shorthand

namespace Buffer

/-! ## The token -/

/-- A run of a class is not empty when the text begins with a character of the class. -/
theorem head?_any_iff (p : Char → Bool) (t : Text) :
    t.head?.any p ↔ 0 < size (t.takeWhile p) := by
  rw [Nat.pos_iff_ne_zero, Ne, size_eq_zero_iff]
  cases t with
  | nil => simp
  | cons c t =>
    by_cases hc : p c
    · simp [hc]
    · simp [hc]

/-- What a selector looks like from behind: a run of the class, and a mark before it. -/
theorem selectorStart?_utf8 (t r : Text) :
    selectorStart? (utf8 (t.reverse ++ r)) (size t) =
      some (match t.dropWhile Shorthand.isSelectorChar with
        | [] => none
        | mark :: rest =>
          if Shorthand.isMark mark ∧ t.head?.any Shorthand.isSelectorChar then some (size rest)
          else none) := by
  have hrun := runStart?_utf8 asciiClass_isSelectorChar t.reverse r
  rw [splitTrailing, List.reverse_reverse, size_reverse, size_reverse] at hrun
  have hsplit : size t = size (t.takeWhile Shorthand.isSelectorChar) +
      size (t.dropWhile Shorthand.isSelectorChar) := by
    rw [← size_append, List.takeWhile_append_dropWhile]
  have hhead := head?_any_iff Shorthand.isSelectorChar t
  rw [selectorStart?, hrun]
  simp only [Option.bind_eq_bind, Option.bind_some]
  cases hd : t.dropWhile Shorthand.isSelectorChar with
  | nil => simp
  | cons mark rest =>
    have ht : t.reverse ++ r = rest.reverse ++ [mark] ++
        ((t.takeWhile Shorthand.isSelectorChar).reverse ++ r) := by
      rw [← List.append_assoc, ← List.reverse_cons, ← hd, ← List.reverse_append,
        List.takeWhile_append_dropWhile]
    obtain ⟨n, x, hn, hx, hin⟩ := getElem?_utf8_pred asciiClass_isMark rest.reverse mark
      ((t.takeWhile Shorthand.isSelectorChar).reverse ++ r)
    have hsize : size (mark :: rest) = n + 1 := by
      rw [← hn, ← List.reverse_cons, size_reverse]
    rw [← ht] at hx
    rw [hd] at hsplit
    rw [hsize]
    by_cases hpos : 0 < size (t.takeWhile Shorthand.isSelectorChar)
    · have hlt : n + 1 < size t ∧ 0 < n + 1 := ⟨by omega, by omega⟩
      rw [if_pos hlt]
      by_cases hm : Shorthand.isMark mark
      · have hone := utf8Size_of_ascii (asciiClass_isMark mark hm)
        have hrest : size rest = n := by
          rw [size_cons] at hsize
          omega
        simp [minus?, hx, hin, hm, hhead.2 hpos, hrest]
      · simp [minus?, hx, hin, hm]
    · have hlt : ¬ (n + 1 < size t ∧ 0 < n + 1) := by omega
      rw [if_neg hlt]
      simp [mt hhead.1 hpos]

theorem selectorsStart?_utf8 (t r : Text) :
    selectorsStart? (utf8 (t.reverse ++ r)) (size t) = some (size (Shorthand.dropSelectors t)) := by
  fun_induction Shorthand.dropSelectors t generalizing r with
  | case1 t h =>
    have hsel := selectorStart?_utf8 t r
    rw [h] at hsel
    rw [selectorsStart?]
    split
    · next hn => simp [hn] at hsel
    · rfl
    · next hs => simp [hs] at hsel
  | case2 t mark rest h hm ih =>
    have hsel := selectorStart?_utf8 t r
    simp only [h, if_pos hm] at hsel
    have ht : t.reverse ++ r = rest.reverse ++
        (mark :: ((t.takeWhile Shorthand.isSelectorChar).reverse ++ r)) := by
      rw [← List.singleton_append, ← List.append_assoc, ← List.append_assoc, ← List.reverse_cons,
        ← h, ← List.reverse_append, List.takeWhile_append_dropWhile]
    rw [selectorsStart?]
    split
    · next hn => simp [hn] at hsel
    · next hn => simp [hn] at hsel
    · next start hs =>
      rw [hs] at hsel
      simp only [Option.some.injEq] at hsel
      subst hsel
      have ih' := ih (mark :: ((t.takeWhile Shorthand.isSelectorChar).reverse ++ r))
      rw [← ht] at ih'
      exact ih'
  | case3 t mark rest h hm =>
    have hsel := selectorStart?_utf8 t r
    simp only [h, if_neg hm] at hsel
    rw [selectorsStart?]
    split
    · next hn => simp [hn] at hsel
    · rfl
    · next hs => simp [hs] at hsel

/-- **The shorthand before the caret is found without a wrong cut, in any text.** -/
theorem shorthand?_eq (before : Text) : shorthand? before = some (Shorthand.token? before) := by
  have hstart := selectorsStart?_utf8 before.reverse []
  rw [List.reverse_reverse, List.append_nil, size_reverse] at hstart
  rw [shorthand?, Shorthand.token?, hstart]
  simp only [Option.bind_eq_bind, Option.bind_some]
  have hsuffix := Shorthand.dropWhile_dropSelectors_suffix before.reverse
  obtain ⟨selectors, hsel⟩ := Shorthand.dropSelectors_suffix before.reverse
  generalize Shorthand.dropSelectors before.reverse = rest at hsel hsuffix
  have hb : before = rest.reverse ++ selectors.reverse := by
    rw [← List.reverse_append, hsel, List.reverse_reverse]
  have hlen : before.reverse.length = selectors.length + rest.length := by
    rw [← hsel, List.length_append]
  have hsize : size before = size rest + size selectors := by
    rw [hb]
    simp
  by_cases hs : selectors = []
  · rw [if_pos (by simp [hsize, hs]), if_neg (by simp [hlen, hs])]
    rfl
  · have hpos : size selectors ≠ 0 := fun h => hs (size_eq_zero_iff.1 h)
    have hlt := List.length_pos_iff.2 hs
    rw [if_neg (by omega), if_pos (by omega)]
    have hrun := runStart?_utf8 asciiClass_isAlphanum rest.reverse selectors.reverse
    rw [← hb, splitTrailing, List.reverse_reverse, size_reverse, size_reverse] at hrun
    have hafter : before.after? (size (rest.dropWhile Char.isAlphanum)) =
        some (before.drop (rest.dropWhile Char.isAlphanum).length) :=
      after?_eq_some_iff.2 ⟨_, (reverse_append_drop hsuffix).symm, size_reverse _⟩
    simp only [hrun, Option.bind_some, hafter]
    rfl

/-! ## The element -/

theorem before?_toMark (t : Text) :
    t.before? (toMark t) = some (t.takeWhile fun c => !Shorthand.isMark c) :=
  before?_eq_some_iff.2 ⟨_, List.takeWhile_append_dropWhile.symm, rfl⟩

theorem after?_toMark (t : Text) :
    t.after? (toMark t) = some (t.dropWhile fun c => !Shorthand.isMark c) :=
  after?_eq_some_iff.2 ⟨_, List.takeWhile_append_dropWhile.symm, rfl⟩

/-- What follows a piece without marks is empty or begins with a mark. -/
theorem isMark_of_mem_head?_dropWhile {t : Text} {c : Char}
    (h : (t.dropWhile fun c => !Shorthand.isMark c).head? = some c) : Shorthand.isMark c := by
  have := List.head?_dropWhile_not (fun c => !Shorthand.isMark c) t
  rw [h] at this
  simpa using this

theorem addAll?_eq (s : Shorthand) (t : Text) (h : ∀ c, t.head? = some c → Shorthand.isMark c) :
    addAll? s t = some (s.addAll t) := by
  fun_induction Shorthand.addAll s t with
  | case1 s => rw [addAll?]
  | case2 s mark t _ ih =>
    have hone := utf8Size_of_ascii (asciiClass_isMark mark (h mark rfl))
    have hbody : after? (mark :: t) 1 = some t :=
      after?_eq_some_iff.2 ⟨[mark], rfl, by simp [hone]⟩
    rw [addAll?]
    split
    · next hn => simp [hn] at hbody
    · next body hb =>
      rw [hbody] at hb
      cases hb
      split
      · next name rest hname hrest =>
        rw [before?_toMark] at hname
        rw [after?_toMark] at hrest
        cases hname
        cases hrest
        exact ih fun c => isMark_of_mem_head?_dropWhile
      · next hno => exact (hno _ _ (before?_toMark t) (after?_toMark t)).elim

/-- What a token stands for is read without a wrong cut. -/
theorem ofToken?_eq (token : Text) : ofToken? token = some (Shorthand.ofToken token) := by
  rw [ofToken?, before?_toMark, after?_toMark]
  exact addAll?_eq _ _ fun c => isMark_of_mem_head?_dropWhile

end Buffer

end MarkupPad
