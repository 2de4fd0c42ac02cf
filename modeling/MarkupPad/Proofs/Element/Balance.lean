import Mathlib.Data.Set.Card
import Mathlib.Order.Interval.Finset.Nat
import Mathlib.Order.Lattice.Nat
import MarkupPad.Proofs.Element.Closing
import MarkupPad.Proofs.Text.Boundary

/-!
# The balancing closing tag, counted

The closing tag that balances an opening one is the first at which more elements of the name
have been closed than opened, where only tags after the opening one count.

    closing? t start name = some p ↔ IsLeast (balancing t start name) p      (closing?_eq_some_iff)
    p ∈ balancing t start name ↔ p ∈ closings t start name ∧
      (closings t start name ∩ Iio p).ncard = (openings t start name ∩ Iio p).ncard
                                                                             (mem_balancing_iff)
-/

namespace MarkupPad

open Text Set

namespace Text

/-! ## Counting up to a character -/

section
variable {S : Set Nat} {a r : Text} {c : Char} (hS : ∀ n ∈ S, IsBoundary (a ++ c :: r) n)

include hS

/-- Counting goes on past a character at which nothing of the set is. -/
theorem ncard_inter_Iio_of_not_mem (h : size a ∉ S) :
    (S ∩ Iio (size (a ++ [c]))).ncard = (S ∩ Iio (size a)).ncard := by
  congr 1
  ext n
  simp only [mem_inter_iff, mem_Iio, and_congr_right_iff]
  intro hn
  have hne : n ≠ size a := fun he => h (he ▸ hn)
  have hsize : size (a ++ [c]) = size a + c.utf8Size := by simp
  have hcut := (hS n hn).le_or_ge
  omega

/-- What is at a character counts from its end on. -/
theorem ncard_inter_Iio_of_mem (h : size a ∈ S) :
    (S ∩ Iio (size (a ++ [c]))).ncard = (S ∩ Iio (size a)).ncard + 1 := by
  have hpos := c.utf8Size_pos
  have hsize : size (a ++ [c]) = size a + c.utf8Size := by simp
  have hinsert : S ∩ Iio (size (a ++ [c])) = insert (size a) (S ∩ Iio (size a)) := by
    ext n
    simp only [mem_inter_iff, mem_Iio, mem_insert_iff]
    constructor
    · rintro ⟨hn, hlt⟩
      have hcut := (hS n hn).le_or_ge
      by_cases he : n = size a
      · exact Or.inl he
      · exact Or.inr ⟨hn, by omega⟩
    · rintro (rfl | ⟨hn, hlt⟩)
      · exact ⟨h, by omega⟩
      · exact ⟨hn, by omega⟩
  rw [hinsert, ncard_insert_of_notMem (by simp) ((finite_Iio _).subset inter_subset_right)]

end

end Text

namespace Element

/-! ## The two kinds of tags -/

/-- The offsets past `start` at which a `<` opens an element of the name: the name follows in any
ASCII case, and then a blank, a `>` or the end of the text. -/
def openings (t : Text) (start : Nat) (name : Text) : Set Nat :=
  {p | start < p ∧ ∃ before typed rest, t = before ++ '<' :: (typed ++ rest) ∧ size before = p ∧
    Same typed name ∧ ∀ c ∈ rest.head?, c = '>' ∨ isAsciiBlank c}

/-- The offsets past `start` at which the closing tag of the name begins, in any ASCII case. -/
def closings (t : Text) (start : Nat) (name : Text) : Set Nat :=
  {p | start < p ∧ ∃ before typed rest, t = before ++ '<' :: '/' :: (typed ++ '>' :: rest) ∧
    size before = p ∧ Same typed name}

/-- The closing tags at which one more element has been closed than opened. -/
def balancing (t : Text) (start : Nat) (name : Text) : Set Nat :=
  {p ∈ closings t start name |
    (closings t start name ∩ Iic p).ncard = (openings t start name ∩ Iio p).ncard + 1}

variable {t name a r : Text} {start p : Nat} {c : Char}

theorem mem_openings_iff :
    p ∈ openings t start name ↔
      start < p ∧ ∃ before after, t = before ++ '<' :: after ∧ size before = p ∧ opens name after := by
  constructor
  · rintro ⟨hp, before, typed, rest, ht, hs, hname, hend⟩
    exact ⟨hp, before, _, ht, hs, opens_iff.2 ⟨typed, rest, rfl, hname, hend⟩⟩
  · rintro ⟨hp, before, after, ht, hs, ho⟩
    obtain ⟨typed, rest, rfl, hname, hend⟩ := opens_iff.1 ho
    exact ⟨hp, before, typed, rest, ht, hs, hname, hend⟩

theorem mem_closings_iff :
    p ∈ closings t start name ↔
      start < p ∧ ∃ before after, t = before ++ '<' :: after ∧ size before = p ∧ closes name after := by
  constructor
  · rintro ⟨hp, before, typed, rest, ht, hs, hname⟩
    exact ⟨hp, before, _, ht, hs, closes_iff.2 ⟨typed, rest, rfl, hname⟩⟩
  · rintro ⟨hp, before, after, ht, hs, hc⟩
    obtain ⟨typed, rest, rfl, hname⟩ := closes_iff.1 hc
    exact ⟨hp, before, typed, rest, ht, hs, hname⟩

/-- Tags begin at characters. -/
theorem isBoundary_of_mem_openings (h : p ∈ openings t start name) : IsBoundary t p := by
  obtain ⟨-, before, after, ht, hs, -⟩ := mem_openings_iff.1 h
  exact ⟨before, '<' :: after, ht, hs⟩

theorem isBoundary_of_mem_closings (h : p ∈ closings t start name) : IsBoundary t p := by
  obtain ⟨-, before, after, ht, hs, -⟩ := mem_closings_iff.1 h
  exact ⟨before, '<' :: after, ht, hs⟩

theorem size_mem_openings_iff :
    size a ∈ openings (a ++ c :: r) start name ↔ start < size a ∧ c = '<' ∧ opens name r := by
  rw [mem_openings_iff]
  constructor
  · rintro ⟨hp, before, after, ht, hs, ho⟩
    obtain ⟨rfl, rfl⟩ := append_cons_inj_of_size ht hs.symm
    exact ⟨hp, rfl, ho⟩
  · rintro ⟨hp, rfl, ho⟩
    exact ⟨hp, a, r, rfl, rfl, ho⟩

theorem size_mem_closings_iff :
    size a ∈ closings (a ++ c :: r) start name ↔ start < size a ∧ c = '<' ∧ closes name r := by
  rw [mem_closings_iff]
  constructor
  · rintro ⟨hp, before, after, ht, hs, hc⟩
    obtain ⟨rfl, rfl⟩ := append_cons_inj_of_size ht hs.symm
    exact ⟨hp, rfl, hc⟩
  · rintro ⟨hp, rfl, hc⟩
    exact ⟨hp, a, r, rfl, rfl, hc⟩

/-- A balancing closing tag is one before which as many elements are closed as opened. -/
theorem mem_balancing_iff :
    p ∈ balancing t start name ↔ p ∈ closings t start name ∧
      (closings t start name ∩ Iio p).ncard = (openings t start name ∩ Iio p).ncard := by
  refine and_congr_right fun hp => ?_
  have hinsert : closings t start name ∩ Iic p = insert p (closings t start name ∩ Iio p) := by
    rw [← Iio_insert, inter_insert_of_mem hp]
  rw [hinsert, ncard_insert_of_notMem (by simp) ((finite_Iio _).subset inter_subset_right),
    Nat.add_right_cancel_iff]

/-! ## The scan counts -/

/-- How far a scan has come at an offset: `depth` more elements have been opened than closed, and
no closing tag before the offset balances. -/
structure Scanned (t : Text) (start : Nat) (name : Text) (n depth : Nat) : Prop where
  depth_eq : (openings t start name ∩ Iio n).ncard = (closings t start name ∩ Iio n).ncard + depth
  ahead : ∀ q ∈ balancing t start name, n ≤ q

section
variable {depth : Nat} (h : Scanned (a ++ c :: r) start name (size a) depth)

include h

/-- Past a character that is no balancing tag only the depth has to be counted again. -/
theorem Scanned.next {depth' : Nat} (hnot : size a ∉ balancing (a ++ c :: r) start name)
    (hdepth : (openings (a ++ c :: r) start name ∩ Iio (size (a ++ [c]))).ncard =
      (closings (a ++ c :: r) start name ∩ Iio (size (a ++ [c]))).ncard + depth') :
    Scanned (a ++ c :: r) start name (size (a ++ [c])) depth' := by
  refine ⟨hdepth, fun q hq => ?_⟩
  have hne : q ≠ size a := fun he => hnot (he ▸ hq)
  have hle := h.ahead q hq
  have hcut := (isBoundary_of_mem_closings hq.1).le_or_ge
  omega

theorem Scanned.skip (hc : size a ∉ closings (a ++ c :: r) start name)
    (ho : size a ∉ openings (a ++ c :: r) start name) :
    Scanned (a ++ c :: r) start name (size (a ++ [c])) depth := by
  refine h.next (fun hb => hc hb.1) ?_
  rw [ncard_inter_Iio_of_not_mem (fun _ => isBoundary_of_mem_openings) ho,
    ncard_inter_Iio_of_not_mem (fun _ => isBoundary_of_mem_closings) hc, h.depth_eq]

/-- An opening tag goes one level deeper. -/
theorem Scanned.opened (hc : size a ∉ closings (a ++ c :: r) start name)
    (ho : size a ∈ openings (a ++ c :: r) start name) :
    Scanned (a ++ c :: r) start name (size (a ++ [c])) (depth + 1) := by
  refine h.next (fun hb => hc hb.1) ?_
  rw [ncard_inter_Iio_of_mem (fun _ => isBoundary_of_mem_openings) ho,
    ncard_inter_Iio_of_not_mem (fun _ => isBoundary_of_mem_closings) hc, h.depth_eq]
  omega

end

/-- A closing tag below level 0 comes one level up, and does not balance. -/
theorem Scanned.closed {inner : Nat} (h : Scanned (a ++ c :: r) start name (size a) (inner + 1))
    (hc : size a ∈ closings (a ++ c :: r) start name)
    (ho : size a ∉ openings (a ++ c :: r) start name) :
    Scanned (a ++ c :: r) start name (size (a ++ [c])) inner := by
  have hdepth := h.depth_eq
  refine h.next (fun hb => ?_) ?_
  · have heq := (mem_balancing_iff.1 hb).2
    omega
  · rw [ncard_inter_Iio_of_not_mem (fun _ => isBoundary_of_mem_openings) ho,
      ncard_inter_Iio_of_mem (fun _ => isBoundary_of_mem_closings) hc, hdepth]
    omega

/-- A closing tag at level 0 is the first that balances. -/
theorem Scanned.isLeast (h : Scanned t start name p 0) (hc : p ∈ closings t start name) :
    IsLeast (balancing t start name) p :=
  ⟨mem_balancing_iff.2 ⟨hc, h.depth_eq.symm⟩, h.ahead⟩

/-- At the end of the text nothing has balanced. -/
theorem Scanned.not_mem_balancing {depth : Nat} (h : Scanned t start name (size t) depth) :
    p ∉ balancing t start name := by
  intro hp
  have hle := h.ahead p hp
  obtain ⟨-, before, after, rfl, rfl, -⟩ := mem_closings_iff.1 hp.1
  simp at hle

/-- **The scan finds the first balancing closing tag.**  The induction is on the text ahead. -/
theorem closingFrom?_eq_some_iff {depth : Nat} (ht : t = a ++ r)
    (h : Scanned t start name (size a) depth) :
    closingFrom? name start (size a) depth r = some p ↔ IsLeast (balancing t start name) p := by
  induction r generalizing a depth with
  | nil =>
    rw [List.append_nil] at ht
    subst ht
    constructor
    · intro hp
      cases hp
    · intro hp
      exact absurd hp.1 h.not_mem_balancing
  | cons c r ih =>
    subst ht
    have hsize : size (a ++ [c]) = size a + c.utf8Size := by simp
    have hnext {depth' : Nat} (h' : Scanned (a ++ c :: r) start name (size (a ++ [c])) depth') :
        closingFrom? name start (size a + c.utf8Size) depth' r = some p ↔
          IsLeast (balancing (a ++ c :: r) start name) p := by
      rw [← hsize]
      exact ih (by simp) h'
    rw [closingFrom?_cons]
    split
    · next htag =>
      have hclosings : size a ∈ closings (a ++ c :: r) start name ↔ closes name r := by
        rw [size_mem_closings_iff]
        simp [htag]
      have hopenings : size a ∈ openings (a ++ c :: r) start name ↔ opens name r := by
        rw [size_mem_openings_iff]
        simp [htag]
      split
      · next hcl =>
        have ho : size a ∉ openings (a ++ c :: r) start name :=
          fun hm => not_closes_of_opens (hopenings.1 hm) hcl
        cases depth with
        | zero =>
          have hleast := h.isLeast (hclosings.2 hcl)
          constructor
          · intro hp
            cases hp
            exact hleast
          · intro hp
            exact congrArg some (hleast.unique hp)
        | succ inner => exact hnext (h.closed (hclosings.2 hcl) ho)
      · next hcl =>
        have hc : size a ∉ closings (a ++ c :: r) start name := fun hm => hcl (hclosings.1 hm)
        split
        · next hop => exact hnext (h.opened hc (hopenings.2 hop))
        · next hop => exact hnext (h.skip hc fun hm => hop (hopenings.1 hm))
    · next htag =>
      refine hnext (h.skip (fun hm => htag ?_) fun hm => htag ?_)
      · obtain ⟨hp, hc, -⟩ := size_mem_closings_iff.1 hm
        exact ⟨hc, hp⟩
      · obtain ⟨hp, hc, -⟩ := size_mem_openings_iff.1 hm
        exact ⟨hc, hp⟩

/-- **The balancing closing tag is the first at which one more element is closed than opened.** -/
theorem closing?_eq_some_iff :
    closing? t start name = some p ↔ IsLeast (balancing t start name) p := by
  refine closingFrom?_eq_some_iff (a := []) rfl ⟨?_, fun q _ => Nat.zero_le q⟩
  simp

/-- There is an answer just where some closing tag balances. -/
theorem closing?_eq_none_iff : closing? t start name = none ↔ balancing t start name = ∅ := by
  rw [Option.eq_none_iff_forall_ne_some, eq_empty_iff_forall_notMem]
  constructor
  · intro h p hp
    have hne : (balancing t start name).Nonempty := ⟨p, hp⟩
    exact h (sInf (balancing t start name))
      (closing?_eq_some_iff.2 ⟨Nat.sInf_mem hne, fun q hq => Nat.sInf_le hq⟩)
  · intro h p hp
    exact h p (closing?_eq_some_iff.1 hp).1

end Element

end MarkupPad
