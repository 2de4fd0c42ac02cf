import MarkupPad.Buffer.Tag
import MarkupPad.Proofs.Element.Balance

/-!
# The two searches for a closing tag are one scan

The buffer looks for the next closing tag and for the next opening tag before it, and
starts again behind the one it has found.  That is the scan from `<` to `<` of the text,
since no tag both opens and closes an element.

    opensAt (utf8 (a ++ '<' :: b)) (utf8 name) (size a) = opens name b        (opensAt_utf8)
    closing? t start name = Element.closing? t start name                     (closing?_eq)
    closing? t start name = some p ↔ IsLeast (Element.balancing t start name) p
                                                                     (closing?_isLeast)
-/

namespace MarkupPad

open Text

namespace Buffer

/-! ## Tags at an offset -/

/-- Bytes spell a name just where characters do. -/
theorem nameAt_utf8 (name a b : Text) :
    nameAt (utf8 (a ++ b)) (utf8 name) (size a) = (dropName? name b).isSome := by
  have hdrop : nameAt (utf8 (a ++ b)) (utf8 name) (size a) ↔
      (utf8 name).map (fun b => (Char.ofUInt8 b).toLower) <+:
        (utf8 b).map (fun b => (Char.ofUInt8 b).toLower) := by
    have hle : size a + size name ≤ size a + size b ↔ size name ≤ size b := by omega
    simp only [nameAt, drop_utf8_append, Bool.and_eq_true, decide_eq_true_eq, length_utf8,
      size_append, hle, List.prefix_iff_eq_take, List.length_map, List.map_take]
    constructor
    · rintro ⟨-, h⟩
      exact h.symm
    · intro h
      have hlen := congrArg List.length h
      simp at hlen
      exact ⟨hlen, h.symm⟩
  rw [Bool.eq_iff_iff, hdrop, map_toLower_utf8, map_toLower_utf8,
    List.prefix_map_iff_of_injective ofUInt8_injective, utf8_prefix_iff, isSome_dropName?_iff]

section
variable (name a b : Text)

theorem opensAt_utf8 :
    opensAt (utf8 (a ++ '<' :: b)) (utf8 name) (size a) = Element.opens name b := by
  have ht : a ++ '<' :: b = a ++ ['<'] ++ b := by simp
  have hs : size (a ++ ['<']) = size a + 1 := by simp
  have hat := nameAt_utf8 name (a ++ ['<']) b
  rw [← ht, hs] at hat
  rw [opensAt, hat, Element.opens]
  cases hd : dropName? name b with
  | none => rfl
  | some rest =>
    obtain ⟨typed, rfl, hsame⟩ := dropName?_eq_some_iff.1 hd
    have hcut : a ++ '<' :: (typed ++ rest) = a ++ '<' :: typed ++ rest := by simp
    have hoff : size a + 1 + (utf8 name).length = size (a ++ '<' :: typed) := by
      simp [hsame.size_eq]
      omega
    have hnext := getElem?_utf8_append (a ++ '<' :: typed) rest 0
    rw [Nat.add_zero] at hnext
    rw [hcut, hoff, hnext]
    cases rest with
    | nil => rfl
    | cons c rest =>
      obtain ⟨x, l, hx, hin⟩ := utf8EncodeChar_eq_cons
        ((asciiClass_eq (d := '>') (by decide)).or asciiClass_isAsciiBlank) c
      simp [hx, hin]

theorem closesAt_utf8 :
    closesAt (utf8 (a ++ '<' :: b)) (utf8 name) (size a) = Element.closes name b := by
  have hs : size (a ++ ['<']) = size a + 1 := by simp
  have hslash := holdsAt_utf8_append (p := (· = '/')) (asciiClass_eq (by decide)) (a ++ ['<']) b
  rw [hs, List.append_assoc, List.singleton_append] at hslash
  rw [closesAt, hslash]
  cases b with
  | nil => rfl
  | cons c b =>
    by_cases hc : c = '/'
    · subst hc
      have ht : a ++ '<' :: '/' :: b = a ++ ['<', '/'] ++ b := by simp
      have hs2 : size (a ++ ['<', '/']) = size a + 2 := by simp
      have hat := nameAt_utf8 name (a ++ ['<', '/']) b
      rw [← ht, hs2] at hat
      rw [hat, Element.closes]
      cases hd : dropName? name b with
      | none => rfl
      | some rest =>
        obtain ⟨typed, rfl, hsame⟩ := dropName?_eq_some_iff.1 hd
        have hcut : a ++ '<' :: '/' :: (typed ++ rest) = a ++ '<' :: '/' :: typed ++ rest := by simp
        have hoff : size a + 2 + (utf8 name).length = size (a ++ '<' :: '/' :: typed) := by
          simp [hsame.size_eq]
          omega
        rw [hcut, hoff, holdsAt_utf8_append (asciiClass_eq (by decide))]
        cases rest with
        | nil => rfl
        | cons d rest =>
          by_cases hd : d = '>'
          · simp [hd]
          · simp [hd]
    · have hclose : ¬ Element.closes name (c :: b) := by
        intro h
        obtain ⟨typed, rest, ht, -⟩ := Element.closes_iff.1 h
        exact hc (List.cons.inj ht).1
      simp [hc, hclose]

end

/-! ## The next angle that fits -/

/-- The only place for a `<` within a character is a `<`. -/
theorem eq_size_of_angle {a r : Text} {c : Char} {i : Nat}
    (h : holdsAt (utf8 (a ++ c :: r)) (· = '<') i) (hle : size a ≤ i)
    (hlt : i < size a + c.utf8Size) : i = size a ∧ c = '<' := by
  obtain ⟨p, q, ht, rfl⟩ := (holdsAt_utf8_iff (by decide)).1 h
  have hs : size (a ++ [c]) = size a + c.utf8Size := by simp
  have hcut := IsBoundary.le_or_ge ⟨p, '<' :: q, ht, rfl⟩
  have hp : size p = size a := by omega
  exact ⟨hp, (append_cons_inj_of_size ht hp.symm).1⟩

section
variable {fits : Nat → Bool} {a r : Text} {c : Char} {i : Nat}

/-- From within a character that is no fitting `<` the search goes on behind it. -/
theorem nextAngle?_skip (hle : size a ≤ i) (hlt : i ≤ size (a ++ [c]))
    (h : i = size a → c = '<' → fits (size a) = false) :
    nextAngle? (utf8 (a ++ c :: r)) i fits =
      nextAngle? (utf8 (a ++ c :: r)) (size (a ++ [c])) fits := by
  have hs : size (a ++ [c]) = size a + c.utf8Size := by simp
  have hlen : (utf8 (a ++ c :: r)).length = size a + c.utf8Size + size r := by
    rw [length_utf8]
    simp [Nat.add_assoc]
  have hsub : size a + c.utf8Size + size r - i = size a + c.utf8Size - i + size r := by omega
  have hstop : i + (size a + c.utf8Size - i) = size a + c.utf8Size := by omega
  have hnone : (List.range' i (size a + c.utf8Size - i)).find?
      (fun j => holdsAt (utf8 (a ++ c :: r)) (· = '<') j && fits j) = none := by
    rw [List.find?_range'_eq_none]
    intro j hij hj
    cases hat : holdsAt (utf8 (a ++ c :: r)) (· = '<') j with
    | false => rfl
    | true =>
      obtain ⟨rfl, hc⟩ := eq_size_of_angle hat (by omega) (by omega)
      simp [h (by omega) hc]
  rw [nextAngle?, nextAngle?, hlen, hs, hsub, Nat.add_sub_cancel_left, ← List.range'_append_1,
    List.find?_append, hnone, Option.none_or, hstop]

theorem nextAngle?_here (h : fits (size a)) :
    nextAngle? (utf8 (a ++ '<' :: r)) (size a) fits = some (size a) := by
  have hlen : (utf8 (a ++ '<' :: r)).length - size a = size r + 1 := by
    rw [length_utf8]
    simp
    omega
  have hat : holdsAt (utf8 (a ++ '<' :: r)) (· = '<') (size a) :=
    (holdsAt_utf8_iff (by decide)).2 ⟨a, r, rfl, rfl⟩
  rw [nextAngle?, hlen, List.range'_succ, List.find?_cons_of_pos (by simp [hat, h])]

end

theorem nextAngle?_nil (a : Text) (fits : Nat → Bool) :
    nextAngle? (utf8 a) (size a) fits = none := by
  rw [nextAngle?, length_utf8, Nat.sub_self]
  rfl

/-! ## The balancing closing tag -/

theorem closingFrom?_of_no_close {bytes name : List UInt8} {depth pos : Nat}
    (h : nextAngle? bytes pos (closesAt bytes name) = none) :
    closingFrom? bytes name depth pos = none := by
  rw [closingFrom?]
  split
  · split
    · rfl
    · next hc =>
      rw [h] at hc
      cases hc
  · rfl

theorem closingFrom?_of_close {bytes name : List UInt8} {depth pos close : Nat}
    (h : nextAngle? bytes pos (closesAt bytes name) = some close) :
    closingFrom? bytes name depth pos =
      match (nextAngle? bytes pos (opensAt bytes name)).filter (· < close) with
      | some opening => closingFrom? bytes name (depth + 1) (opening + 1)
      | none =>
        match depth with
        | 0 => some close
        | inner + 1 => closingFrom? bytes name inner (close + 1) := by
  have hpos : pos < bytes.length := by
    have hm := List.mem_range'_1.1 (List.mem_of_find?_eq_some h)
    omega
  rw [closingFrom?, if_pos hpos]
  split
  · next hn => simp [h] at hn
  · next close' hc =>
    rw [h] at hc
    cases hc
    split
    · next opening ho => rw [ho]
    · next ho =>
      cases depth with
      | zero => simp [ho]
      | succ inner => simp [ho]

/-- From two offsets that find the same the search goes on in the same way. -/
theorem closingFrom?_congr {bytes name : List UInt8} {depth pos pos' : Nat}
    (hc : nextAngle? bytes pos (closesAt bytes name) = nextAngle? bytes pos' (closesAt bytes name))
    (ho : nextAngle? bytes pos (opensAt bytes name) = nextAngle? bytes pos' (opensAt bytes name)) :
    closingFrom? bytes name depth pos = closingFrom? bytes name depth pos' := by
  cases h : nextAngle? bytes pos (closesAt bytes name) with
  | none => rw [closingFrom?_of_no_close h, closingFrom?_of_no_close (hc.symm.trans h)]
  | some close =>
    rw [closingFrom?_of_close h, closingFrom?_of_close (hc.symm.trans h), ho]

section
variable {name : Text} (a : Text) {r : Text} (depth : Nat)

/-- A closing tag here is the next one, and no opening tag is nearer. -/
theorem closingFrom?_of_closes (h : Element.closes name r) :
    closingFrom? (utf8 (a ++ '<' :: r)) (utf8 name) depth (size a) =
      match depth with
      | 0 => some (size a)
      | inner + 1 => closingFrom? (utf8 (a ++ '<' :: r)) (utf8 name) inner (size a + 1) := by
  have hclose := (closesAt_utf8 name a r).trans h
  have hnone : (nextAngle? (utf8 (a ++ '<' :: r)) (size a)
      (opensAt (utf8 (a ++ '<' :: r)) (utf8 name))).filter (· < size a) = none := by
    rw [Option.filter_eq_none_iff]
    intro i hi
    have := le_of_nextAngle? hi
    simp
    omega
  rw [closingFrom?_of_close (nextAngle?_here hclose), hnone]

/-- An opening tag here goes one level deeper, if a closing tag follows at all. -/
theorem closingFrom?_of_opens (hc : ¬ Element.closes name r) (ho : Element.opens name r) :
    closingFrom? (utf8 (a ++ '<' :: r)) (utf8 name) depth (size a) =
      closingFrom? (utf8 (a ++ '<' :: r)) (utf8 name) (depth + 1) (size a + 1) := by
  have hopen := (opensAt_utf8 name a r).trans ho
  have hclose : closesAt (utf8 (a ++ '<' :: r)) (utf8 name) (size a) = false := by
    rw [closesAt_utf8]
    simpa using hc
  have hskip := nextAngle?_skip (r := r) (Nat.le_refl (size a)) (by simp)
    fun _ (_ : '<' = '<') => hclose
  have hs : size (a ++ ['<']) = size a + 1 := by simp
  rw [hs] at hskip
  cases hn : nextAngle? (utf8 (a ++ '<' :: r)) (size a + 1)
      (closesAt (utf8 (a ++ '<' :: r)) (utf8 name)) with
  | none => rw [closingFrom?_of_no_close (hskip.trans hn), closingFrom?_of_no_close hn]
  | some close =>
    have hlt : size a + 1 ≤ close := le_of_nextAngle? hn
    have hnear : (some (size a)).filter (· < close) = some (size a) := by
      rw [Option.filter_some, if_pos (by simp; omega)]
    rw [closingFrom?_of_close (hskip.trans hn), nextAngle?_here hopen, hnear]

/-- A character that is no tag of the name moves neither search. -/
theorem closingFrom?_of_no_tag {c : Char}
    (h : c = '<' → ¬ Element.closes name r ∧ ¬ Element.opens name r) :
    closingFrom? (utf8 (a ++ c :: r)) (utf8 name) depth (size a) =
      closingFrom? (utf8 (a ++ c :: r)) (utf8 name) depth (size (a ++ [c])) := by
  have hle : size a ≤ size (a ++ [c]) := by simp
  refine closingFrom?_congr (nextAngle?_skip (Nat.le_refl _) hle fun _ hc => ?_)
    (nextAngle?_skip (Nat.le_refl _) hle fun _ hc => ?_)
  · subst hc
    rw [closesAt_utf8]
    simpa using (h rfl).1
  · subst hc
    rw [opensAt_utf8]
    simpa using (h rfl).2

/-- **The two searches in turn are one scan.**  The induction is on the text ahead. -/
theorem closingFrom?_eq {start : Nat} (r : Text) (h : start < size a) :
    closingFrom? (utf8 (a ++ r)) (utf8 name) depth (size a) =
      Element.closingFrom? name start (size a) depth r := by
  induction r generalizing a depth with
  | nil =>
    rw [List.append_nil]
    exact closingFrom?_of_no_close (nextAngle?_nil a _)
  | cons c r ih =>
    have hs : size (a ++ [c]) = size a + c.utf8Size := by simp
    have ht : a ++ c :: r = a ++ [c] ++ r := by simp
    have ih' (depth' : Nat) := ih (a ++ [c]) depth' (by omega)
    rw [← ht, hs] at ih'
    rw [Element.closingFrom?_cons]
    by_cases hc : c = '<'
    · subst hc
      rw [if_pos ⟨rfl, h⟩]
      by_cases hcl : Element.closes name r
      · rw [if_pos hcl, closingFrom?_of_closes a depth hcl]
        cases depth with
        | zero => rfl
        | succ inner => exact ih' inner
      · rw [if_neg hcl]
        by_cases hop : Element.opens name r
        · rw [if_pos hop, closingFrom?_of_opens a depth hcl hop]
          exact ih' (depth + 1)
        · rw [if_neg hop, closingFrom?_of_no_tag a depth fun _ => ⟨hcl, hop⟩, hs, ih' depth]
    · rw [if_neg fun h' => hc h'.1, closingFrom?_of_no_tag a depth fun h' => absurd h' hc, hs,
        ih' depth]

end

/-- **The closing tag that balances an opening one is found by offsets as on characters**,
also from an offset within a character or past the end. -/
theorem closing?_eq (t : Text) (start : Nat) (name : Text) :
    closing? t start name = Element.closing? t start name := by
  by_cases h : start < size t
  · -- both scans go on behind the character that `start` is in
    obtain ⟨a, c, r, rfl, hle, hlt⟩ := exists_char_at h
    have hs : size (a ++ [c]) = size a + c.utf8Size := by simp
    have ht : a ++ c :: r = a ++ [c] ++ r := by simp
    have hskip : closing? (a ++ c :: r) start name =
        closingFrom? (utf8 (a ++ c :: r)) (utf8 name) 0 (size (a ++ [c])) :=
      closingFrom?_congr (nextAngle?_skip (by omega) hlt (by omega))
        (nextAngle?_skip (by omega) hlt (by omega))
    calc closing? (a ++ c :: r) start name
        = Element.closingFrom? name start (size (a ++ [c])) 0 r := by
          rw [hskip, ht, closingFrom?_eq (a ++ [c]) 0 r hlt]
      _ = Element.closingFrom? name start (size a) 0 (c :: r) := by
          rw [Element.closingFrom?_cons, if_neg fun h' => Nat.not_lt.2 hle h'.2, hs]
      _ = Element.closing? (a ++ c :: r) start name := by
          rw [Element.closing?, Element.closingFrom?_append_of_le (by omega), Nat.zero_add]
  · -- no offset is left to look at
    have hnone : nextAngle? (utf8 t) (start + 1) (closesAt (utf8 t) (utf8 name)) = none := by
      have hlen : (utf8 t).length - (start + 1) = 0 := by
        rw [length_utf8]
        omega
      rw [nextAngle?, hlen]
      rfl
    have hpast : Element.closingFrom? name start 0 0 (t ++ []) =
        Element.closingFrom? name start (0 + size t) 0 [] :=
      Element.closingFrom?_append_of_le (by omega)
    rw [List.append_nil] at hpast
    rw [closing?, closingFrom?_of_no_close hnone, Element.closing?, hpast]
    rfl

/-- **The search counts**: it finds the least closing tag at which one more element of the name
has been closed than opened, and nothing when there is none. -/
theorem closing?_isLeast (t : Text) (start : Nat) (name : Text) :
    (∀ p, closing? t start name = some p ↔ IsLeast (Element.balancing t start name) p) ∧
      (closing? t start name = none ↔ Element.balancing t start name = ∅) := by
  rw [closing?_eq]
  exact ⟨fun p => Element.closing?_eq_some_iff, Element.closing?_eq_none_iff⟩

end Buffer

end MarkupPad
