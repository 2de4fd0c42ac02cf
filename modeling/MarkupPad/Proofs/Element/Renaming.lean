import MarkupPad.Element.Renaming
import MarkupPad.Proofs.Element.Closing

/-!
# What a rename reaches

The closing tag that is renamed stands after the caret, so the text up to the caret stays as
it is.

    rename? old new caret = some renamed → the text before the caret begins `renamed`
-/

namespace MarkupPad.Element

open Text

theorem not_isNameChar_angle : isNameChar '<' = false := rfl

theorem not_mem_of_name {a : Text} (ha : ∀ c ∈ a, isNameChar c) : '<' ∉ a := by
  intro h
  have hc := ha '<' h
  rw [not_isNameChar_angle] at hc
  cases hc

/-- A name is the run of letters at the front of a text that goes on with something else. -/
theorem takeWhile_name {a s : Text} (ha : ∀ c ∈ a, isNameChar c) (hs : ¬ s.head?.any isNameChar) :
    (a ++ s).takeWhile isNameChar = a ∧ (a ++ s).dropWhile isNameChar = s := by
  rw [List.takeWhile_append_of_pos ha, List.dropWhile_append_of_pos ha]
  cases s with
  | nil => simp
  | cons c s =>
    have hc : ¬ isNameChar c := by simpa using hs
    simp [hc]

/-- Another name in a tag, with the caret anywhere in it, is a change of name. -/
theorem nameChange?_append {head a l r s : Text} (hangle : head.getLast? = some '<')
    (ha : ∀ c ∈ a, isNameChar c) (hname : ∀ c ∈ l ++ r, isNameChar c)
    (hs : ¬ s.head?.any isNameChar) (hne : a.length ≠ (l ++ r).length)
    (hend : isEnded s) :
    nameChange? (head ++ (a ++ s)) (head ++ (l ++ r ++ s)) (size (head ++ l)) =
      some (head, a, l ++ r, s) := by
  have hbefore : before? (head ++ (l ++ r ++ s)) (size (head ++ l)) = some (head ++ l) :=
    before?_eq_some_iff.2 ⟨r ++ s, by simp, rfl⟩
  have hsplit : splitTrailing isNameChar (head ++ l) = (head, l) := by
    refine splitTrailing_append_of_all isNameChar ?_ fun c hc =>
      hname c (List.mem_append_left r hc)
    intro c hc
    rw [hangle] at hc
    cases hc
    rfl
  have hold : dropFront? head (head ++ (a ++ s)) = some (a ++ s) := dropFront?_eq_some_iff.2 rfl
  have hnew : dropFront? head (head ++ (l ++ r ++ s)) = some (l ++ r ++ s) :=
    dropFront?_eq_some_iff.2 rfl
  simp only [nameChange?, hbefore, hsplit, hold, hnew, Option.bind_eq_bind, Option.bind_some,
    takeWhile_name ha hs, takeWhile_name hname hs]
  exact if_pos ⟨hangle, trivial, hne, hend⟩

/-- A change of name leaves a `<` and letters before the caret. -/
theorem nameChange?_before {old new : Text} {caret : Nat} {change : Text × Text × Text × Text}
    (h : nameChange? old new caret = some change) :
    ∃ run after, new = change.1 ++ run ++ after ∧ size (change.1 ++ run) = caret ∧
      change.1.getLast? = some '<' ∧ ∀ c ∈ run, isNameChar c := by
  simp only [nameChange?, Option.bind_eq_bind, Option.bind_eq_some_iff] at h
  obtain ⟨before, hb, oldRest, -, newRest, -, h⟩ := h
  split at h
  · next hc =>
    cases h
    obtain ⟨after, rfl, rfl⟩ := before?_eq_some_iff.1 hb
    exact ⟨_, after, by rw [splitTrailing_append], by rw [splitTrailing_append], hc.1,
      all_splitTrailing _ before⟩
  · cases h

/-- The scan for the closing tag reads past the name at the caret. -/
theorem le_of_closing? {head run after name : Text} {close : Nat}
    (hangle : head.getLast? = some '<') (hrun : ∀ c ∈ run, isNameChar c)
    (h : closing? (head ++ run ++ after) (size head - 1) name = some close) :
    size (head ++ run) ≤ close := by
  obtain ⟨p, rfl⟩ := List.getLast?_eq_some_iff.1 hangle
  rw [closing?, List.append_assoc, closingFrom?_append_of_le (by simp),
    closingFrom?_append_of_not_mem (not_mem_of_name hrun)] at h
  obtain ⟨a, b, -, -, rfl⟩ := closingFrom?_some h
  rw [size_append]
  omega

/-- **A rename keeps the text before the caret.** -/
theorem rename?_before {old new renamed : Text} {caret : Nat}
    (h : rename? old new caret = some renamed) :
    ∃ before, new.before? caret = some before ∧ before <+: renamed := by
  simp only [rename?, Option.bind_eq_bind, Option.bind_eq_some_iff] at h
  obtain ⟨⟨head, oldName, newName, rest⟩, hchange, close, hclose, kept, hkept, tail, -, h⟩ := h
  cases h
  obtain ⟨run, after, rfl, rfl, hangle, hrun⟩ := nameChange?_before hchange
  have hle := le_of_closing? hangle hrun hclose
  refine ⟨head ++ run, before?_append _ _, ?_⟩
  obtain ⟨b, ht, hs⟩ := before?_eq_some_iff.1 hkept
  have hpre : head ++ run <+: kept := by
    rcases List.append_eq_append_iff.1 ht with ⟨x, hx, -⟩ | ⟨x, hx, -⟩
    · exact ⟨x, hx.symm⟩
    · have hsize := congrArg size hx
      simp only [size_append] at hsize hle
      omega
  exact hpre.trans ((List.prefix_append _ _).trans (List.prefix_append _ _))

end MarkupPad.Element
