import MarkupPad.Proofs.Buffer.Closing
import MarkupPad.Proofs.Buffer.Token
import MarkupPad.Proofs.Element.Renaming

/-!
# A rename seen from both ends

An edit is compared with the old text from the front and from the back.  Letters that the
two names share can be counted to either end, but what follows a name begins with no
letter; so the two rests fit into the common end just when they are equal.

    n ≤ commonPrefix a b ↔ n ≤ a.length ∧ n ≤ b.length ∧ a.take n = b.take n
    rename? old new caret = some (Element.rename? old new caret)    (rename?_eq)
-/

namespace MarkupPad

open Text

namespace Text

theorem utf8_inj {a b : Text} (h : utf8 a = utf8 b) : a = b := by
  have h1 : a <+: b := prefix_of_utf8_prefix (h ▸ List.prefix_refl _)
  have h2 : b <+: a := prefix_of_utf8_prefix (h ▸ List.prefix_refl _)
  exact h1.eq_of_length_le h2.length_le

/-- The first byte of a class, if there is one, is the first character of the class. -/
theorem any_find?_utf8 {p q : Char → Bool} (hp : AsciiClass p) (hq : AsciiClass q) (t : Text) :
    ((utf8 t).find? (byteIn p)).any (byteIn q) = (t.find? p).any q := by
  induction t with
  | nil => rfl
  | cons c t ih =>
    by_cases hc : p c
    · obtain ⟨b, l, h, hb⟩ := utf8EncodeChar_eq_cons hp c
      have hbq : byteIn q b = q c := byteIn_of_mem hq (by simp [h])
      rw [utf8_cons, h, List.cons_append, List.find?_cons_of_pos (by rw [hb, hc]),
        List.find?_cons_of_pos hc, Option.any_some, Option.any_some, hbq]
    · have hnone : (String.utf8EncodeChar c).find? (byteIn p) = none := by
        rw [List.find?_eq_none]
        intro b hb
        rw [byteIn_of_mem hp hb]
        exact hc
      rw [utf8_cons, List.find?_append, hnone, Option.none_or, List.find?_cons_of_neg hc, ih]

end Text

namespace Buffer

/-! ## The common ends of two texts -/

theorem le_commonPrefix_iff {n : Nat} {a b : List UInt8} :
    n ≤ commonPrefix a b ↔ n ≤ a.length ∧ n ≤ b.length ∧ a.take n = b.take n := by
  induction a generalizing b n with
  | nil =>
    cases n with
    | zero => simp
    | succ n => simp [commonPrefix]
  | cons x a ih =>
    cases b with
    | nil =>
      cases n with
      | zero => simp
      | succ n => simp [commonPrefix]
    | cons y b =>
      cases n with
      | zero => simp
      | succ n =>
        by_cases h : x = y
        · simp [commonPrefix, h, ih]
        · simp [commonPrefix, h]

theorem commonPrefix_comm (a b : List UInt8) : commonPrefix a b = commonPrefix b a := by
  apply Nat.le_antisymm
  · obtain ⟨h1, h2, h3⟩ := le_commonPrefix_iff.1 (Nat.le_refl (commonPrefix a b))
    exact le_commonPrefix_iff.2 ⟨h2, h1, h3.symm⟩
  · obtain ⟨h1, h2, h3⟩ := le_commonPrefix_iff.1 (Nat.le_refl (commonPrefix b a))
    exact le_commonPrefix_iff.2 ⟨h2, h1, h3.symm⟩

theorem commonPrefix_le (a b : List UInt8) :
    commonPrefix a b ≤ a.length ∧ commonPrefix a b ≤ b.length := by
  obtain ⟨h1, h2, -⟩ := le_commonPrefix_iff.1 (Nat.le_refl (commonPrefix a b))
  exact ⟨h1, h2⟩

theorem le_commonSuffix_iff {n : Nat} {a b : List UInt8} :
    n ≤ commonSuffix a b ↔
      n ≤ a.length ∧ n ≤ b.length ∧ a.drop (a.length - n) = b.drop (b.length - n) := by
  rw [commonSuffix, le_commonPrefix_iff, List.length_reverse, List.length_reverse,
    List.take_reverse, List.take_reverse, List.reverse_inj]

/-! ## Two names between the same ends -/

section
variable {p : UInt8 → Bool} {h a b s t : List UInt8}

/-- A rest that is longer than what follows the name begins with a byte of the name. -/
theorem any_head?_drop (ha : ∀ x ∈ a, p x) {n : Nat} (hn : h.length ≤ n)
    (hlt : n < h.length + a.length) : ((h ++ a ++ s).drop n).head?.any p := by
  have hlt' : n - h.length < a.length := by omega
  rw [List.head?_drop, List.append_assoc, List.getElem?_append_right hn,
    List.getElem?_append_left hlt', List.getElem?_eq_getElem hlt', Option.any_some]
  exact ha _ (List.getElem_mem hlt')

/-- The texts differ where the shorter name ends. -/
theorem commonPrefix_le_of_lt (hb : ∀ x ∈ b, p x) (hs : ¬ s.head?.any p)
    (hlt : a.length < b.length) : commonPrefix (h ++ a ++ s) (h ++ b ++ s) ≤ h.length + a.length := by
  apply Nat.le_of_not_lt
  intro hle
  obtain ⟨hla, hlb, htake⟩ := le_commonPrefix_iff.1 (Nat.succ_le_of_lt hle)
  have hat : (h ++ a ++ s)[h.length + a.length]? = (h ++ b ++ s)[h.length + a.length]? := by
    have := congrArg (·[h.length + a.length]?) htake
    simpa [List.getElem?_take] using this
  have hs0 : (h ++ a ++ s)[h.length + a.length]? = s.head? := by
    rw [List.getElem?_append_right (by simp), List.length_append, Nat.sub_self, List.head?_eq_getElem?]
  have hb0 : (h ++ b ++ s)[h.length + a.length]? = some b[a.length] := by
    rw [List.append_assoc, List.getElem?_append_right (by omega), Nat.add_sub_cancel_left,
      List.getElem?_append_left hlt, List.getElem?_eq_getElem hlt]
  rw [hs0, hb0] at hat
  apply hs
  rw [hat, Option.any_some]
  exact hb _ (List.getElem_mem hlt)

/-- Rests that both lie in the common end are the same: neither is longer than the other. -/
theorem eq_of_le_commonSuffix (ha : ∀ x ∈ a, p x) (hb : ∀ x ∈ b, p x) (hs : ¬ s.head?.any p)
    (ht : ¬ t.head?.any p) (hskept : s.length ≤ commonSuffix (h ++ a ++ s) (h ++ b ++ t))
    (htkept : t.length ≤ commonSuffix (h ++ a ++ s) (h ++ b ++ t))
    (hsroom : s.length ≤ b.length + t.length) (htroom : t.length ≤ a.length + s.length) :
    s = t := by
  obtain ⟨-, hsb, hsdrop⟩ := le_commonSuffix_iff.1 hskept
  obtain ⟨hta, -, htdrop⟩ := le_commonSuffix_iff.1 htkept
  simp only [List.length_append] at hsb hta hsdrop htdrop
  have hsdrop' : (h ++ a ++ s).drop (h.length + a.length + s.length - s.length) = s := by
    rw [Nat.add_sub_cancel, ← List.length_append, List.drop_left]
  have htdrop' : (h ++ b ++ t).drop (h.length + b.length + t.length - t.length) = t := by
    rw [Nat.add_sub_cancel, ← List.length_append, List.drop_left]
  rw [hsdrop'] at hsdrop
  rw [htdrop'] at htdrop
  have hts : ¬ s.length < t.length := by
    intro hlt
    apply ht
    rw [← htdrop]
    exact any_head?_drop ha (by omega) (by omega)
  have hst : ¬ t.length < s.length := by
    intro hlt
    apply hs
    rw [hsdrop]
    exact any_head?_drop hb (by omega) (by omega)
  have hlen : s.length = t.length := by omega
  rw [hlen, htdrop'] at hsdrop
  exact hsdrop

/-- The same rest lies in the common end, and leaves room for the common front. -/
theorem length_le_kept (ha : ∀ x ∈ a, p x) (hb : ∀ x ∈ b, p x) (hs : ¬ s.head?.any p)
    (hne : a.length ≠ b.length) :
    s.length ≤ min (commonSuffix (h ++ a ++ s) (h ++ b ++ s))
      (min (h ++ a ++ s).length (h ++ b ++ s).length -
        commonPrefix (h ++ a ++ s) (h ++ b ++ s)) := by
  have hback : s.length ≤ commonSuffix (h ++ a ++ s) (h ++ b ++ s) := by
    refine le_commonSuffix_iff.2 ⟨by simp; omega, by simp; omega, ?_⟩
    rw [List.length_append, Nat.add_sub_cancel, List.drop_left, List.length_append,
      Nat.add_sub_cancel, List.drop_left]
  have hle : commonPrefix (h ++ a ++ s) (h ++ b ++ s) ≤ h.length + min a.length b.length := by
    rcases Nat.lt_or_gt_of_ne hne with hlt | hlt
    · have := commonPrefix_le_of_lt (h := h) hb hs hlt
      omega
    · have := commonPrefix_le_of_lt (h := h) ha hs hlt
      rw [commonPrefix_comm] at this
      omega
  simp only [List.length_append]
  omega

/-- **The rests after two names of different length lie in the common end just when they
are the same.**  The common end must not reach into the common front. -/
theorem rests_eq_iff (ha : ∀ x ∈ a, p x) (hb : ∀ x ∈ b, p x) (hs : ¬ s.head?.any p)
    (ht : ¬ t.head?.any p) (hne : (h ++ a ++ s).length ≠ (h ++ b ++ t).length) :
    (let shared := commonPrefix (h ++ a ++ s) (h ++ b ++ t)
     let kept := min (commonSuffix (h ++ a ++ s) (h ++ b ++ t))
       (min (h ++ a ++ s).length (h ++ b ++ t).length - shared)
     s.length ≤ kept ∧ t.length ≤ kept) ↔ s = t := by
  constructor
  · rintro ⟨hskept, htkept⟩
    have hfront : h.length ≤ commonPrefix (h ++ a ++ s) (h ++ b ++ t) :=
      le_commonPrefix_iff.2 ⟨by simp, by simp, by simp⟩
    simp only [List.length_append] at hskept htkept
    exact eq_of_le_commonSuffix (h := h) ha hb hs ht (by omega) (by omega) (by omega) (by omega)
  · rintro rfl
    have hab : a.length ≠ b.length := by
      intro hab
      apply hne
      simp [hab]
    have hkept := length_le_kept (h := h) ha hb hs hab
    exact ⟨hkept, hkept⟩

end

/-! ## The two names -/

theorem isEndedFrom_utf8 (a t : Text) : isEndedFrom (utf8 (a ++ t)) (size a) = Element.isEnded t := by
  rw [isEndedFrom, drop_utf8_append, any_find?_utf8 ((asciiClass_eq (by decide)).or
    (asciiClass_eq (by decide))) (asciiClass_eq (by decide)), Element.isEnded]
  cases t.find? fun c => c = '<' || c = '>' with
  | none => rfl
  | some c => simp

/-- Without the text before the name in front, no name has changed. -/
theorem names?_of_not_prefix {old newRest head : Text} (h : dropFront? head old = none) :
    names? old (head ++ newRest) (size head) = some none := by
  have hlt : commonPrefix old.utf8 (head ++ newRest).utf8 < size head := by
    apply Nat.lt_of_not_le
    intro hle
    obtain ⟨-, -, htake⟩ := le_commonPrefix_iff.1 hle
    have hpre : utf8 head <+: utf8 old := by
      rw [utf8_append, ← length_utf8 head, List.take_left] at htake
      rw [← htake]
      exact List.take_prefix _ _
    obtain ⟨r, hr⟩ := prefix_of_utf8_prefix hpre
    rw [dropFront?_eq_some_iff.2 hr.symm] at h
    cases h
  rw [names?, if_pos hlt]
  rfl

section
variable {head a b s t : Text}

theorem runLength?_name (ha : ∀ c ∈ a, Element.isNameChar c)
    (hs : ¬ s.head?.any Element.isNameChar) :
    runLength? (utf8 (head ++ a ++ s)) Element.isNameChar (size head) = some (size a) := by
  rw [List.append_assoc, runLength?_utf8 asciiClass_isNameChar, (Element.takeWhile_name ha hs).1]

theorem not_any_head?_utf8 {p : Char → Bool} (hp : AsciiClass p) (hs : ¬ s.head?.any p) :
    ¬ (utf8 s).head?.any (byteIn p) := by
  cases s with
  | nil => simp
  | cons c s =>
    obtain ⟨x, l, hc, hx⟩ := utf8EncodeChar_eq_cons hp c
    simpa [hc, hx] using hs

theorem byteIn_of_name (ha : ∀ c ∈ a, Element.isNameChar c) :
    ∀ x ∈ utf8 a, byteIn Element.isNameChar x := by
  intro x hx
  obtain ⟨c, hc, hxc⟩ := List.mem_flatMap.1 hx
  rw [byteIn_of_mem asciiClass_isNameChar hxc, ha c hc]

theorem size_le_commonPrefix (head a b : Text) :
    size head ≤ commonPrefix (utf8 (head ++ a)) (utf8 (head ++ b)) := by
  refine le_commonPrefix_iff.2 ⟨by simp, by simp, ?_⟩
  rw [utf8_append, utf8_append, ← length_utf8 head, List.take_left, List.take_left]

/-- Two names before the same text or different ones: the bytes are compared from both
ends. -/
theorem names?_append (ha : ∀ c ∈ a, Element.isNameChar c) (hb : ∀ c ∈ b, Element.isNameChar c)
    (hs : ¬ s.head?.any Element.isNameChar) (ht : ¬ t.head?.any Element.isNameChar)
    (hne : size (head ++ a ++ s) ≠ size (head ++ b ++ t)) :
    names? (head ++ a ++ s) (head ++ b ++ t) (size head) =
      some (if s = t ∧ Element.isEnded s then some (a, b) else none) := by
  have hshared : size head ≤ commonPrefix (utf8 (head ++ a ++ s)) (utf8 (head ++ b ++ t)) := by
    rw [List.append_assoc, List.append_assoc]
    exact size_le_commonPrefix head (a ++ s) (b ++ t)
  have hiff := rests_eq_iff (h := utf8 head) (byteIn_of_name ha) (byteIn_of_name hb)
    (not_any_head?_utf8 asciiClass_isNameChar hs) (not_any_head?_utf8 asciiClass_isNameChar ht)
  simp only [← utf8_append, length_utf8] at hiff
  replace hiff := hiff hne
  obtain ⟨hle1, hle2⟩ := commonPrefix_le (utf8 (head ++ a ++ s)) (utf8 (head ++ b ++ t))
  rw [length_utf8] at hle1 hle2
  have hended := isEndedFrom_utf8 (head ++ a) s
  have hslice1 := slice?_append head a s
  have hslice2 := slice?_append head b t
  rw [size_append head] at hended hslice1 hslice2
  rw [names?, runLength?_name ha hs, runLength?_name hb ht]
  generalize commonPrefix (utf8 (head ++ a ++ s)) (utf8 (head ++ b ++ t)) = shared at *
  generalize commonSuffix (utf8 (head ++ a ++ s)) (utf8 (head ++ b ++ t)) = suffix at *
  have hminus {m n : Nat} (h : n ≤ m) : minus? m n = some (m - n) := if_pos h
  simp only [if_neg (Nat.not_lt.2 hshared), hminus (Nat.le_min.2 ⟨hle1, hle2⟩), Option.bind_eq_bind,
    Option.bind_some, Option.getD_some]
  generalize hk : min suffix (min (size (head ++ a ++ s)) (size (head ++ b ++ t)) - shared) = kept
    at *
  rw [hminus (by omega), hminus (by omega)]
  simp only [Option.bind_some, hslice1, hslice2, hended]
  simp only [size_append] at hne ⊢
  by_cases hrest : s = t
  · subst hrest
    obtain ⟨h1, -⟩ := hiff.2 rfl
    have hname : a ≠ b := fun h => hne (by rw [h])
    rw [if_neg (by omega), if_neg (by omega)]
    by_cases he : Element.isEnded s
    · simp [he, hname]
    · simp [he]
  · -- one of the rests is not in the common end
    have hnot : ¬ (size s ≤ kept ∧ size t ≤ kept) := fun h => hrest (utf8_inj (hiff.1 h))
    have hnone : (if s = t ∧ Element.isEnded s then some (a, b) else none) = none :=
      if_neg fun h => hrest h.1
    rw [hnone]
    by_cases h1 : size head + size a < size head + size a + size s - kept
    · rw [if_pos h1]
      rfl
    · rw [if_neg h1, if_pos (by omega)]
      rfl

end

/-! ## The renaming -/

/-- The closing tag that is found can be cut out of the text. -/
theorem cut_of_closing? {t name : Text} {start close : Nat}
    (h : Element.closing? t start name = some close) :
    ∃ head typed rest, t = head ++ typed ++ rest ∧ size head = close + 2 ∧
      size typed = size name := by
  obtain ⟨a, b, rfl, hb, rfl⟩ := Element.closingFrom?_some h
  obtain ⟨typed, rest, rfl, hs⟩ := Element.closes_iff.1 hb
  refine ⟨a ++ ['<', '/'], typed, '>' :: rest, by simp, ?_, hs.size_eq⟩
  simp

/-- A text begins with a name, which may be empty. -/
theorem exists_name (t : Text) : ∃ a s, t = a ++ s ∧ (∀ c ∈ a, Element.isNameChar c) ∧
    ¬ s.head?.any Element.isNameChar := by
  refine ⟨t.takeWhile Element.isNameChar, t.dropWhile Element.isNameChar,
    List.takeWhile_append_dropWhile.symm, List.all_eq_true.1 List.all_takeWhile, ?_⟩
  have h := List.head?_dropWhile_not Element.isNameChar t
  cases hd : t.dropWhile Element.isNameChar with
  | nil => simp
  | cons c r =>
    rw [hd] at h
    simpa using h

/-- Names are as long in bytes as in letters. -/
theorem size_name_eq_iff {a b : Text} (ha : ∀ c ∈ a, Element.isNameChar c)
    (hb : ∀ c ∈ b, Element.isNameChar c) (head s : Text) :
    size (head ++ (a ++ s)) = size (head ++ (b ++ s)) ↔ a.length = b.length := by
  have hsize {u : Text} (hu : ∀ c ∈ u, Element.isNameChar c) : size u = u.length :=
    size_of_ascii fun c hc => asciiClass_isNameChar c (hu c hc)
  simp only [size_append, hsize ha, hsize hb]
  omega

/-- The closing tag is looked for under the same name, and found at the same offset. -/
theorem renameFrom_eq {head rest oldName newName : Text} (hangle : head.getLast? = some '<') :
    (do
      match closing? (head ++ rest) (← minus? (size head) 1) oldName with
      | none => return none
      | some close =>
        let kept ← (head ++ rest).before? (close + 2)
        let tail ← (head ++ rest).after? (close + 2 + size oldName)
        return some (kept ++ newName ++ tail) : Option (Option Text)) =
      some (do
        let close ← Element.closing? (head ++ rest) (size head - 1) oldName
        let kept ← (head ++ rest).before? (close + 2)
        let tail ← (head ++ rest).after? (close + 2 + size oldName)
        return kept ++ newName ++ tail) := by
  obtain ⟨n, hn⟩ : ∃ n, size head = n + 1 := by
    obtain ⟨h, rfl⟩ := List.getLast?_eq_some_iff.1 hangle
    exact ⟨size h, by simp⟩
  have hminus : minus? (size head) 1 = some n := by
    rw [hn]
    rfl
  rw [hminus, hn, Nat.add_sub_cancel]
  simp only [Option.bind_eq_bind, Option.bind_some, closing?_eq]
  cases h : Element.closing? (head ++ rest) n oldName with
  | none => rfl
  | some close =>
    obtain ⟨kept, typed, tail, ht, hkept, htyped⟩ := cut_of_closing? h
    have hbefore : (head ++ rest).before? (close + 2) = some kept :=
      before?_eq_some_iff.2 ⟨typed ++ tail, by rw [ht, List.append_assoc], hkept⟩
    have hafter : (head ++ rest).after? (close + 2 + size oldName) = some tail :=
      after?_eq_some_iff.2 ⟨kept ++ typed, ht, by rw [size_append, hkept, htyped]⟩
    simp only [hbefore, hafter, Option.bind_some]
    rfl

/-- **Renaming by offsets is renaming on characters, and no cut of it goes wrong**, whatever
the two texts and the caret are. -/
theorem rename?_eq (old new : Text) (caret : Nat) :
    rename? old new caret = some (Element.rename? old new caret) := by
  rw [rename?, Element.rename?, Element.nameChange?]
  cases hb : new.before? caret with
  | none => simp
  | some before =>
    obtain ⟨after, rfl, rfl⟩ := before?_eq_some_iff.1 hb
    have hbefore := splitTrailing_append Element.isNameChar before
    simp only [tagName?_eq, Token.tagName?, Token.afterAngle?, Option.bind_eq_bind, Option.bind_some,
      Token.trailing]
    generalize (splitTrailing Element.isNameChar before).1 = head at *
    generalize (splitTrailing Element.isNameChar before).2 = run at *
    subst hbefore
    have hnew : dropFront? head (head ++ run ++ after) = some (run ++ after) :=
      dropFront?_eq_some_iff.2 (by simp)
    rw [hnew, List.append_assoc]
    generalize run ++ after = newRest
    by_cases hangle : head.getLast? = some '<'
    · cases hold : dropFront? head old with
      | none =>
        simp [hangle, names?_of_not_prefix hold]
      | some oldRest =>
        have holdEq := dropFront?_eq_some_iff.1 hold
        subst holdEq
        obtain ⟨a, s, rfl, ha, hs⟩ := exists_name oldRest
        obtain ⟨b, t, rfl, hb, ht⟩ := exists_name newRest
        simp only [hangle, if_true, Option.bind_some, true_and, Element.takeWhile_name ha hs,
          Element.takeWhile_name hb ht]
        by_cases hne : size (head ++ (a ++ s)) = size (head ++ (b ++ t))
        · have hno : ¬ (s = t ∧ a.length ≠ b.length ∧ Element.isEnded t) := by
            rintro ⟨rfl, hab, -⟩
            exact hab ((size_name_eq_iff ha hb head s).1 hne)
          rw [if_pos hne, if_neg hno]
          rfl
        · have hnames : names? (head ++ (a ++ s)) (head ++ (b ++ t)) (size head) =
              some (if s = t ∧ Element.isEnded s then some (a, b) else none) := by
            rw [← List.append_assoc, ← List.append_assoc] at hne ⊢
            exact names?_append ha hb hs ht hne
          rw [if_neg hne, hnames]
          by_cases hchange : s = t ∧ Element.isEnded s
          · obtain ⟨rfl, he⟩ := hchange
            have hab : a.length ≠ b.length := fun h => hne ((size_name_eq_iff ha hb head s).2 h)
            rw [if_pos ⟨rfl, he⟩, if_pos ⟨rfl, hab, he⟩]
            exact renameFrom_eq hangle
          · have hno : ¬ (s = t ∧ a.length ≠ b.length ∧ Element.isEnded t) := by
              rintro ⟨rfl, -, he⟩
              exact hchange ⟨rfl, he⟩
            rw [if_neg hchange, if_neg hno]
            rfl
    · simp [hangle]

end Buffer

end MarkupPad
