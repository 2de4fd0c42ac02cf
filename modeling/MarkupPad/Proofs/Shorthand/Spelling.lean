import MarkupPad.Proofs.Buffer.Shorthand

/-!
# How shorthand is spelled

A shorthand is spelled as the name of a tag, which may be missing, and at least one selector, each
a mark with a name.  No mark is a letter of a name, so the selectors at the end of a text can be
told in one way only, and going backwards over one after the other finds the longest shorthand
there is.

    dropSelectors (selector.text.reverse ++ t) = dropSelectors t           (dropSelectors_selector)
    token? t = some token ↔
      IsLongestSpelling t token.text ∧ token.start + size token.text = size t
                                                                            (token?_eq_some_iff)
-/

namespace MarkupPad

open Text

namespace Shorthand

/-- A selector as it is written: a mark and a name. -/
structure Selector where
  mark : Char
  name : Text
  isMark_mark : isMark mark
  name_ne_nil : name ≠ []
  isSelectorChar_name : ∀ c ∈ name, isSelectorChar c

/-- The text of a selector. -/
def Selector.text (s : Selector) : Text := s.mark :: s.name

/-- A shorthand as it is written: the name of a tag, which may be missing, and selectors. -/
structure Spelling where
  tag : Text
  selectors : List Selector
  isAlphanum_tag : ∀ c ∈ tag, c.isAlphanum
  selectors_ne_nil : selectors ≠ []

/-- The text of a shorthand. -/
def Spelling.text (s : Spelling) : Text := s.tag ++ s.selectors.flatMap Selector.text

/-- The longest text at the end of another that spells a shorthand. -/
structure IsLongestSpelling (t text : Text) : Prop where
  isSuffix : text <:+ t
  exists_spelling : ∃ s : Spelling, s.text = text
  length_le : ∀ s : Spelling, s.text <:+ t → s.text.length ≤ text.length

/-! ## Characters -/

theorem isSelectorChar_of_isAlphanum {c : Char} (h : c.isAlphanum) : isSelectorChar c := by
  simp [isSelectorChar, h]

theorem not_isSelectorChar_of_isMark {c : Char} (h : isMark c) : isSelectorChar c = false := by
  simp only [isMark, Bool.or_eq_true, decide_eq_true_eq] at h
  rcases h with rfl | rfl
  · decide
  · decide

theorem not_isMark_of_isSelectorChar {c : Char} (h : isSelectorChar c) : isMark c = false := by
  by_contra hm
  rw [not_isSelectorChar_of_isMark (by simpa using hm)] at h
  cases h

theorem Selector.forall_mem_text (s : Selector) : ∀ c ∈ s.text, isSelectorChar c ∨ isMark c := by
  intro c hc
  rcases List.mem_cons.1 hc with rfl | hc
  · exact Or.inr s.isMark_mark
  · exact Or.inl (s.isSelectorChar_name c hc)

/-- A shorthand is spelled with marks and the letters of names. -/
theorem Spelling.forall_mem_text (s : Spelling) : ∀ c ∈ s.text, isSelectorChar c ∨ isMark c := by
  intro c hc
  rcases List.mem_append.1 hc with hc | hc
  · exact Or.inl (isSelectorChar_of_isAlphanum (s.isAlphanum_tag c hc))
  · obtain ⟨selector, -, hc⟩ := List.mem_flatMap.1 hc
    exact selector.forall_mem_text c hc

/-! ## Selectors at the end of a text -/

/-- **A selector at the end is passed over.** -/
theorem dropSelectors_selector (s : Selector) (t : Text) :
    dropSelectors (s.text.reverse ++ t) = dropSelectors t := by
  have hname : ∀ c ∈ s.name.reverse, isSelectorChar c := fun c hc =>
    s.isSelectorChar_name c (List.mem_reverse.1 hc)
  have hmark := not_isSelectorChar_of_isMark s.isMark_mark
  have ht : s.text.reverse ++ t = s.name.reverse ++ s.mark :: t := by simp [Selector.text]
  have hdrop : (s.name.reverse ++ s.mark :: t).dropWhile isSelectorChar = s.mark :: t := by
    rw [List.dropWhile_append_of_pos hname, List.dropWhile_cons_of_neg (by simp [hmark])]
  have hhead : (s.name.reverse ++ s.mark :: t).head?.any isSelectorChar := by
    obtain ⟨c, r, hr⟩ := List.exists_cons_of_ne_nil (mt List.reverse_eq_nil_iff.1 s.name_ne_nil)
    rw [hr] at hname ⊢
    exact hname c List.mem_cons_self
  rw [ht, dropSelectors]
  split
  · next h => simp [hdrop] at h
  · next mark rest h =>
    rw [hdrop, List.cons.injEq] at h
    obtain ⟨rfl, rfl⟩ := h
    rw [if_pos ⟨s.isMark_mark, hhead⟩]

theorem dropSelectors_selectors (l : List Selector) (t : Text) :
    dropSelectors ((l.flatMap Selector.text).reverse ++ t) = dropSelectors t := by
  induction l generalizing t with
  | nil => rfl
  | cons s l ih =>
    rw [List.flatMap_cons, List.reverse_append, List.append_assoc, ih, dropSelectors_selector]

/-- What is passed over are selectors. -/
theorem exists_selectors (t : Text) :
    ∃ l : List Selector, t = (l.flatMap Selector.text).reverse ++ dropSelectors t := by
  fun_induction dropSelectors t with
  | case1 t => exact ⟨[], rfl⟩
  | case2 t mark rest h hm ih =>
    obtain ⟨l, hl⟩ := ih
    have ht := List.takeWhile_append_dropWhile (p := isSelectorChar) (l := t)
    have hne : (t.takeWhile isSelectorChar).reverse ≠ [] := by
      have hpos := (Buffer.head?_any_iff isSelectorChar t).1 hm.2
      rintro hnil
      rw [List.reverse_eq_nil_iff.1 hnil] at hpos
      exact Nat.lt_irrefl 0 hpos
    have hall : ∀ c ∈ (t.takeWhile isSelectorChar).reverse, isSelectorChar c := fun c hc =>
      List.all_eq_true.1 List.all_takeWhile c (List.mem_reverse.1 hc)
    refine ⟨l ++ [⟨mark, (t.takeWhile isSelectorChar).reverse, hm.1, hne, hall⟩], ?_⟩
    generalize dropSelectors rest = left at hl
    rw [h, hl] at ht
    simpa [Selector.text] using ht.symm
  | case3 t => exact ⟨[], rfl⟩

/-! ## The longest shorthand -/

/-- The letters of a tag keep nothing of what stands before them. -/
theorem length_dropWhile_dropSelectors_le {tag : Text} (htag : ∀ c ∈ tag, c.isAlphanum) (t : Text) :
    ((dropSelectors (tag ++ t)).dropWhile Char.isAlphanum).length ≤ t.length := by
  have hdrop : (tag ++ t).dropWhile isSelectorChar = t.dropWhile isSelectorChar :=
    List.dropWhile_append_of_pos fun c hc => isSelectorChar_of_isAlphanum (htag c hc)
  have hself : ((tag ++ t).dropWhile Char.isAlphanum).length ≤ t.length := by
    rw [List.dropWhile_append_of_pos htag]
    exact (List.dropWhile_suffix _).length_le
  rw [dropSelectors]
  split
  · exact hself
  · next mark rest h =>
    split
    · -- The letters belong to the name of another selector, which has its mark before them.
      have hrest := (List.dropWhile_suffix isSelectorChar (l := t)).length_le
      have hleft := (dropWhile_dropSelectors_suffix rest).length_le
      rw [← hdrop, h, List.length_cons] at hrest
      omega
    · exact hself

theorem exists_spelling_of_token? {before : Text} {token : Token}
    (h : token? before = some token) : ∃ s : Spelling, s.text = token.text := by
  obtain ⟨l, hl⟩ := exists_selectors before.reverse
  unfold token? at h
  simp only at h
  split at h
  · next hlt =>
    cases h
    generalize dropSelectors before.reverse = rest at hl hlt
    have hne : l ≠ [] := by
      rintro rfl
      simp [hl] at hlt
    have htag : ∀ c ∈ (rest.takeWhile Char.isAlphanum).reverse, c.isAlphanum := fun c hc =>
      List.all_eq_true.1 List.all_takeWhile c (List.mem_reverse.1 hc)
    -- Backwards: the selectors, the letters of the tag, all that stands before the shorthand.
    have hb : before = (rest.dropWhile Char.isAlphanum).reverse ++
        ((rest.takeWhile Char.isAlphanum).reverse ++ l.flatMap Selector.text) := by
      rw [← List.append_assoc, ← List.reverse_append, List.takeWhile_append_dropWhile,
        ← List.reverse_reverse before, hl, List.reverse_append, List.reverse_reverse]
    refine ⟨⟨(rest.takeWhile Char.isAlphanum).reverse, l, htag, hne⟩, ?_⟩
    simp only [Spelling.text]
    rw [hb, List.drop_left' List.length_reverse]
  · cases h

/-- No shorthand at the end of a text is longer than the one that is found. -/
theorem exists_token?_of_suffix {before : Text} {s : Spelling} (hs : s.text <:+ before) :
    ∃ token, token? before = some token ∧ s.text.length ≤ token.text.length := by
  obtain ⟨head, rfl⟩ := hs
  have htag : ∀ c ∈ s.tag.reverse, c.isAlphanum := fun c hc =>
    s.isAlphanum_tag c (List.mem_reverse.1 hc)
  have hreverse : (head ++ s.text).reverse =
      (s.selectors.flatMap Selector.text).reverse ++ (s.tag.reverse ++ head.reverse) := by
    simp [Spelling.text]
  have hdrop : dropSelectors (head ++ s.text).reverse =
      dropSelectors (s.tag.reverse ++ head.reverse) := by
    rw [hreverse, dropSelectors_selectors]
  have hpos : 0 < (s.selectors.flatMap Selector.text).length := by
    obtain ⟨selector, l, hl⟩ := List.exists_cons_of_ne_nil s.selectors_ne_nil
    simp [hl, Selector.text]
  have hlt : (dropSelectors (head ++ s.text).reverse).length < (head ++ s.text).reverse.length := by
    have hle := (dropSelectors_suffix (s.tag.reverse ++ head.reverse)).length_le
    have hlen := congrArg List.length hreverse
    rw [List.length_append, List.length_reverse] at hlen
    rw [hdrop, List.length_reverse, hlen, List.length_reverse]
    omega
  have hkept := length_dropWhile_dropSelectors_le htag head.reverse
  refine ⟨_, by rw [token?, if_pos hlt], ?_⟩
  rw [hdrop]
  simp only [List.length_drop, List.length_append, List.length_reverse] at hkept ⊢
  omega

theorem IsLongestSpelling.unique {t text text' : Text} (h : IsLongestSpelling t text)
    (h' : IsLongestSpelling t text') : text = text' := by
  obtain ⟨s, rfl⟩ := h.exists_spelling
  obtain ⟨s', rfl⟩ := h'.exists_spelling
  have hlen := Nat.le_antisymm (h'.length_le s h.isSuffix) (h.length_le s' h'.isSuffix)
  exact (List.suffix_of_suffix_length_le h.isSuffix h'.isSuffix
    (Nat.le_of_eq hlen)).eq_of_length hlen

/-- **The shorthand before the caret is the longest one that is spelled there.** -/
theorem token?_eq_some_iff {before : Text} {token : Token} :
    token? before = some token ↔
      IsLongestSpelling before token.text ∧ token.start + size token.text = size before := by
  have hlongest {token : Token} (h : token? before = some token) :
      IsLongestSpelling before token.text ∧ token.start + size token.text = size before := by
    obtain ⟨head, hb, hstart⟩ := token?_suffix h
    refine ⟨⟨⟨head, hb.symm⟩, exists_spelling_of_token? h, fun s hs => ?_⟩, ?_⟩
    · obtain ⟨found, hfound, hle⟩ := exists_token?_of_suffix hs
      rw [h, Option.some.injEq] at hfound
      rwa [hfound]
    · rw [hstart, ← size_append, ← hb]
  refine ⟨hlongest, fun ⟨h, hstart⟩ => ?_⟩
  obtain ⟨s, hs⟩ := h.exists_spelling
  obtain ⟨found, hfound, -⟩ := exists_token?_of_suffix (hs ▸ h.isSuffix)
  obtain ⟨h', hstart'⟩ := hlongest hfound
  have htext := h.unique h'
  have hsame : token.start = found.start := by
    rw [htext] at hstart
    omega
  obtain ⟨start, text⟩ := token
  simp only at htext hsame
  rw [hfound, htext, hsame]

end Shorthand

namespace Buffer

open Shorthand

/-- **The shorthand before the caret is the longest end of the text that spells one.**  The search
ends in any text, and finds none just where no end of the text spells any. -/
theorem shorthand_is_longest_spelling (before : Text) :
    ∃ found, shorthand? before = some found ∧
      (found.isSome ↔ ∃ s : Spelling, s.text <:+ before) ∧
      ∀ token, found = some token ↔
        IsLongestSpelling before token.text ∧ token.start + size token.text = size before := by
  refine ⟨_, shorthand?_eq before, ⟨fun h => ?_, fun ⟨s, hs⟩ => ?_⟩,
    fun token => token?_eq_some_iff⟩
  · obtain ⟨token, htoken⟩ := Option.isSome_iff_exists.1 h
    obtain ⟨⟨hsuffix, ⟨s, hs⟩, -⟩, -⟩ := token?_eq_some_iff.1 htoken
    exact ⟨s, hs ▸ hsuffix⟩
  · obtain ⟨token, htoken, -⟩ := exists_token?_of_suffix hs
    exact Option.isSome_iff_exists.2 ⟨token, htoken⟩

end Buffer

end MarkupPad
