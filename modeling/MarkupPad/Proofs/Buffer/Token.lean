import MarkupPad.Buffer.Token
import MarkupPad.Proofs.Buffer.Run

/-!
# Tokens of a buffer are tokens of its text

Each scanner of tokens finds by offsets what its namesake finds on the characters; so none
of them cuts the text at a wrong place, whatever the text is.

    trailing? p before = some (Token.trailing p before)             p an ASCII class
    unfinished? spaced before = where `Element.unfinished? spaced before` stands
    context? before = some (Context.ofText? before)                 (context?_eq)
    autoClosed? before = some (Element.autoClosed? before)          (autoClosed?_eq)
-/

namespace MarkupPad

open Text

namespace Element

/-! ## Where the unfinished tag stands -/

theorem leadingName?_append {spaced : Bool} {t : Text} {found : Text × Text}
    (h : leadingName? spaced t = some found) : found.1 ++ found.2 = t := by
  unfold leadingName? at h
  simp only at h
  split at h
  · cases h
    exact List.takeWhile_append_dropWhile
  · cases h

theorem firstOpen?_suffix {spaced : Bool} {t : Text} {found : Text × Text}
    (h : firstOpen? spaced t = some found) : ∃ a, t = a ++ '<' :: (found.1 ++ found.2) := by
  induction t with
  | nil => cases h
  | cons c t ih =>
    unfold firstOpen? at h
    split at h
    · next hc =>
      subst hc
      split at h
      · obtain ⟨a, rfl⟩ := ih h
        exact ⟨'<' :: a, rfl⟩
      · next found' hf =>
        cases h
        exact ⟨[], by rw [leadingName?_append hf]; rfl⟩
    · obtain ⟨a, rfl⟩ := ih h
      exact ⟨c :: a, rfl⟩

/-- The unfinished tag reaches to the end of the text. -/
theorem unfinished?_suffix {spaced : Bool} {t : Text} {found : Text × Text}
    (h : unfinished? spaced t = some found) : ∃ a, t = a ++ '<' :: (found.1 ++ found.2) := by
  obtain ⟨a, ha⟩ := firstOpen?_suffix h
  refine ⟨(splitTrailing (· != '>') t).1 ++ a, ?_⟩
  rw [List.append_assoc, ← ha, splitTrailing_append]

end Element

namespace Buffer

/-! ## Tokens before the caret -/

theorem trailing?_eq {p : Char → Bool} (hp : AsciiClass p) (before : Text) :
    trailing? p before = some (Token.trailing p before) := by
  have hrun := runStart?_utf8 hp before []
  rw [List.append_nil] at hrun
  have hrest : before.after? (size (splitTrailing p before).1) = some (splitTrailing p before).2 :=
    after?_eq_some_iff.2 ⟨_, (splitTrailing_append p before).symm, rfl⟩
  rw [trailing?, hrun]
  simp only [Option.bind_eq_bind, Option.bind_some, hrest]
  rfl

theorem afterAngle?_eq {p : Char → Bool} (hp : AsciiClass p) (before : Text) :
    afterAngle? p before = some (Token.afterAngle? p before) := by
  rw [afterAngle?, trailing?_eq hp, Token.afterAngle?]
  have ht : (Token.trailing p before).start = size (splitTrailing p before).1 := rfl
  simp only [Option.bind_eq_bind, Option.bind_some, ht]
  rcases List.eq_nil_or_concat (splitTrailing p before).1 with hnil | ⟨h, c, hc⟩
  · simp [hnil]
  · have hb := splitTrailing_append p before
    rw [hc, List.concat_eq_append] at hb ⊢
    obtain ⟨n, x, hn, hx, hin⟩ :=
      getElem?_utf8_pred (asciiClass_eq (d := '<') (by decide)) h c (splitTrailing p before).2
    rw [hb] at hx
    rw [hn]
    simp [minus?, hx, hin]

theorem tagName?_eq (before : Text) : tagName? before = some (Token.tagName? before) :=
  afterAngle?_eq asciiClass_isNameChar before

/-! ## The unfinished tag -/

theorem nameAfter?_eq (spaced : Bool) (head t : Text) :
    nameAfter? spaced (head ++ '<' :: t) (size head) =
      some ((Element.leadingName? spaced t).map fun found => (size head + 1, size found.1)) := by
  have hs : size (head ++ ['<']) = size head + 1 := by simp
  have ht : head ++ '<' :: t = head ++ ['<'] ++ t := by simp
  have hlen := runLength?_utf8 asciiClass_isNameChar (head ++ ['<']) t
  have hrest : after? (head ++ ['<'] ++ t) (size head + 1 + size (t.takeWhile Element.isNameChar)) =
      some (t.dropWhile Element.isNameChar) :=
    after?_eq_some_iff.2 ⟨head ++ ['<'] ++ t.takeWhile Element.isNameChar, by
      rw [List.append_assoc _ (t.takeWhile _), List.takeWhile_append_dropWhile], by simp; omega⟩
  rw [hs] at hlen
  rw [ht, nameAfter?, hlen, Element.leadingName?]
  simp only [Option.bind_eq_bind, Option.bind_some, size_eq_zero_iff, hrest]
  by_cases hname : t.takeWhile Element.isNameChar = []
  · simp [hname]
  · cases spaced with
    | false => simp [hname]
    | true =>
      by_cases hb : (t.dropWhile Element.isNameChar).head?.any isBlank
      · simp [hname, hb]
      · simp [hname, hb]

theorem firstName?_eq (spaced : Bool) (head rest : Text) :
    firstName? spaced (head ++ rest) (offsetsFrom '<' (size head) rest) =
      some ((Element.firstOpen? spaced rest).map fun found =>
        (size (head ++ rest) - size (found.1 ++ found.2), size found.1)) := by
  induction rest generalizing head with
  | nil => rfl
  | cons c rest ih =>
    have hs : size (head ++ [c]) = size head + c.utf8Size := by simp
    have ht : head ++ c :: rest = head ++ [c] ++ rest := by simp
    have ih' := ih (head ++ [c])
    rw [hs, ← ht] at ih'
    rw [offsetsFrom, Element.firstOpen?]
    by_cases hc : c = '<'
    · subst hc
      rw [if_pos rfl, if_pos rfl, firstName?, nameAfter?_eq]
      cases hl : Element.leadingName? spaced rest with
      | none =>
        simp only [Option.bind_eq_bind, Option.bind_some, Option.map_none]
        exact ih'
      | some found =>
        have hf := Element.leadingName?_append hl
        have hsize : size (head ++ '<' :: rest) = size head + 1 + size rest := by
          simp [Nat.add_assoc]
        simp only [Option.bind_eq_bind, Option.bind_some, Option.map_some, Option.pure_def, hf, hsize,
          Nat.add_sub_cancel]
    · rw [if_neg hc, if_neg hc]
      exact ih'

theorem unfinished?_eq (spaced : Bool) (before : Text) :
    unfinished? spaced before =
      some ((Element.unfinished? spaced before).map fun found =>
        (size before - size (found.1 ++ found.2), size found.1)) := by
  have hb := splitTrailing_append (· != '>') before
  have hrest : before.after? (size (splitTrailing (· != '>') before).1) =
      some (splitTrailing (· != '>') before).2 :=
    after?_eq_some_iff.2 ⟨_, hb.symm, rfl⟩
  have hname := firstName?_eq spaced (splitTrailing (· != '>') before).1
    (splitTrailing (· != '>') before).2
  rw [hb] at hname
  rw [unfinished?, Element.unfinished?, afterLast_eq (by decide)]
  simp only [Option.bind_eq_bind, hrest, Option.bind_some, map_offsetsFrom, Nat.add_zero]
  exact hname

/-- The name is cut out where it stands. -/
theorem slice?_of_unfinished? {spaced : Bool} {before : Text} {found : Text × Text}
    (h : Element.unfinished? spaced before = some found) :
    before.slice? (size before - size (found.1 ++ found.2))
      (size before - size (found.1 ++ found.2) + size found.1) = some found.1 := by
  obtain ⟨a, rfl⟩ := Element.unfinished?_suffix h
  have hstart : size (a ++ '<' :: (found.1 ++ found.2)) - size (found.1 ++ found.2) =
      size (a ++ ['<']) := by
    simp
    omega
  have hslice := slice?_append (a ++ ['<']) found.1 found.2
  rw [size_append (a ++ ['<'])] at hslice
  rw [hstart]
  simpa using hslice

theorem autoClosed?_eq (before : Text) :
    autoClosed? before = some (Element.autoClosed? before) := by
  rw [autoClosed?, unfinished?_eq, Element.autoClosed?, Element.endedBy?]
  cases h : Element.unfinished? false before with
  | none => rfl
  | some found =>
    simp only [Option.bind_eq_bind, Option.bind_some, Option.map_some, slice?_of_unfinished? h,
      Option.filter_some]
    cases Vocabulary.isVoid found.1
    · rfl
    · rfl

/-! ## What is being typed -/

theorem attribute?_eq (before : Text) : attribute? before = some (Context.attribute? before) := by
  rw [attribute?, unfinished?_eq, Context.attribute?]
  cases Element.unfinished? true before with
  | none => rfl
  | some found =>
    simp only [Option.bind_eq_bind, Option.bind_some, Option.map_some,
      trailing?_eq asciiClass_isAttributeChar]
    rfl

theorem tag?_eq (before : Text) : tag? before = some (Context.tag? before) := by
  rw [tag?, afterAngle?_eq asciiClass_isAlphanum, Context.tag?]
  cases Token.afterAngle? Char.isAlphanum before with
  | none => rfl
  | some token => rfl

theorem element?_eq (before : Text) : element? before = some (Context.element? before) := by
  have hhead : before.before? (size (splitTrailing Char.isAlphanum before).1) =
      some (splitTrailing Char.isAlphanum before).1 :=
    before?_eq_some_iff.2 ⟨_, (splitTrailing_append _ before).symm, rfl⟩
  rw [element?, trailing?_eq asciiClass_isAlphanum, Context.element?]
  by_cases hword : (splitTrailing Char.isAlphanum before).2 = []
  · simp [Token.trailing, hword]
  · by_cases hf : Token.wordMayFollow (splitTrailing Char.isAlphanum before).1
    · simp [Token.trailing, hword, hhead, hf]
    · simp [Token.trailing, hword, hhead, hf]

/-- **What is being typed is found without a wrong cut, in any text.** -/
theorem context?_eq (before : Text) : context? before = some (Context.ofText? before) := by
  rw [context?, attribute?_eq, Context.ofText?]
  cases Context.attribute? before with
  | some context => rfl
  | none =>
    rw [tag?_eq]
    cases Context.tag? before with
    | some context => rfl
    | none => exact element?_eq before

end Buffer

end MarkupPad
