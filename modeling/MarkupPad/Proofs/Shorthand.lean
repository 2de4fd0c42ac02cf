import MarkupPad.Proofs.Shorthand.Spelling
import MarkupPad.Proofs.Text.Split

/-!
# What a shorthand is spelled with

A shorthand holds only marks and letters of names, and the element has its names from there.  So
nothing in its opening tag can be taken for another tag.

    token? before = some token → every character of token.text is a mark or one of a name
                                                                              (forall_mem_token?)
    s.openTagHead = '<' :: inner, with no `<` in inner                      (exists_openTagHead)
-/

namespace MarkupPad

open Text

namespace Shorthand

/-! ## Characters of a shorthand -/

/-- A shorthand is spelled with marks and the letters of names. -/
theorem forall_mem_token? {before : Text} {token : Token} (h : token? before = some token) :
    ∀ c ∈ token.text, isSelectorChar c ∨ isMark c := by
  obtain ⟨s, hs⟩ := exists_spelling_of_token? h
  rw [← hs]
  exact s.forall_mem_text

/-! ## Characters of the element -/

/-- The names of an element in short consist of characters of one kind. -/
structure Consists (p : Char → Prop) (s : Shorthand) : Prop where
  tag : ∀ c ∈ s.tag, p c
  classes : ∀ name ∈ s.classes, ∀ c ∈ name, p c
  id : ∀ name ∈ s.id, ∀ c ∈ name, p c

variable {p : Char → Prop} {s : Shorthand} {t : Text}

theorem Consists.add (h : s.Consists p) (mark : Char) (ht : ∀ c ∈ t, p c) :
    (s.add mark t).Consists p := by
  unfold Shorthand.add
  split
  · exact h
  · split
    · refine ⟨h.tag, fun name hname => ?_, h.id⟩
      rcases List.mem_append.1 hname with hname | hname
      · exact h.classes name hname
      · rwa [List.mem_singleton.1 hname]
    · refine ⟨h.tag, h.classes, ?_⟩
      rintro name ⟨⟩
      exact ht

theorem Consists.addAll (h : s.Consists p) (ht : ∀ c ∈ t, p c) : (s.addAll t).Consists p := by
  fun_induction Shorthand.addAll s t with
  | case1 s => exact h
  | case2 s mark t _ ih =>
    have ht' : ∀ c ∈ t, p c := fun c hc => ht c (List.mem_cons_of_mem mark hc)
    refine ih (h.add mark fun c hc => ?_) fun c hc => ?_
    · exact ht' c ((List.takeWhile_sublist _).mem hc)
    · exact ht' c ((List.dropWhile_sublist _).mem hc)

/-- An element has its names from the token, but for the tag `div`. -/
theorem consists_ofToken (hdiv : ∀ c ∈ "div".toList, p c) (ht : ∀ c ∈ t, p c) :
    (ofToken t).Consists p := by
  refine Consists.addAll ⟨?_, by simp, by simp⟩ fun c hc => ht c ((List.dropWhile_sublist _).mem hc)
  intro c hc
  split at hc
  · exact hdiv c hc
  · exact ht c ((List.takeWhile_sublist _).mem hc)

/-- Behind its `<` the opening tag of an element holds no other. -/
theorem exists_openTagHead (h : s.Consists (· ≠ '<')) :
    ∃ inner, s.openTagHead = '<' :: inner ∧ '<' ∉ inner := by
  have hnot {t : Text} (ht : ∀ c ∈ t, c ≠ '<') : '<' ∉ t := fun hc => ht '<' hc rfl
  simp only [openTagHead, List.cons_append]
  refine ⟨_, rfl, ?_⟩
  simp only [List.mem_append, not_or]
  refine ⟨⟨hnot h.tag, ?_⟩, ?_⟩
  · cases hid : s.id with
    | none => simp
    | some id => simp [hnot (h.id id hid)]
  · split
    · simp
    · have hjoin : '<' ∉ join [' '] s.classes := by
        intro hc
        rcases mem_join hc with hc | ⟨name, hname, hc⟩
        · revert hc
          decide
        · exact hnot (h.classes name hname) hc
      simp [hjoin]

end Shorthand

end MarkupPad
