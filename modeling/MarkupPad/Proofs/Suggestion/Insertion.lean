import MarkupPad.Proofs.Buffer.Completion

/-!
# What an accepted suggestion inserts

An accepted word comes into the text with what belongs to it: a part before the caret and a part
behind it.  It takes the place of the run of letters before the caret, where there is something
to replace; else nothing happens.

    s.insertion = (left ++ right, size left)                where s.Inserts left right
    accept? s (head ++ run ++ after) (size (head ++ run)) =
      some ⟨head ++ (left ++ right) ++ after, size (head ++ left)⟩          (accept?_of_replaces)
-/

namespace MarkupPad

open Text

theorem Vocabulary.familyStem?_eq_some_iff {name stem : Text} :
    familyStem? name = some stem ↔ name = stem ++ ['*'] ∧ stem.getLast? = some '-' := by
  unfold familyStem?
  constructor
  · intro h
    split at h
    · next hc =>
      cases h
      obtain ⟨stem, rfl⟩ := List.getLast?_eq_some_iff.1 hc.1
      simpa using hc.2
    · cases h
  · rintro ⟨rfl, h⟩
    simp [h]

/-- No boolean attribute stands for a family. -/
theorem Vocabulary.familyStem?_of_isBooleanAttribute {name : Text}
    (h : isBooleanAttribute name) : familyStem? name = none := by
  have hlast : ∀ word ∈ booleanAttributes, (asciiLower word).getLast? ≠ some '*' := by
    decide
  obtain ⟨word, hword, hsame⟩ := List.any_eq_true.1 h
  rw [Option.eq_none_iff_forall_ne_some]
  rintro stem hstem
  obtain ⟨rfl, -⟩ := familyStem?_eq_some_iff.1 hstem
  refine hlast word hword ?_
  rw [of_decide_eq_true hsame]
  simp [asciiLower]

namespace SuggestionKind

/-- The characters of the run that an accepted suggestion replaces. -/
def tokenChar : SuggestionKind → Char → Bool
  | .attribute => Token.isAttributeChar
  | .tag | .element => Char.isAlphanum

/-- Does an accepted suggestion replace the run between `head` and the caret?  A tag needs its
`<` before the run, and an element needs a run. -/
def Replaces (kind : SuggestionKind) (head run : Text) : Prop :=
  match kind with
  | .tag => head.getLast? = some '<'
  | .element => run ≠ []
  | .attribute => True

end SuggestionKind

namespace Suggestion

/-! ## The insertion -/

/-- What an accepted word brings into the text, before the caret and behind it. -/
inductive Inserts : Suggestion → Text → Text → Prop
  | voidTag {name : Text} (h : Vocabulary.isVoid name) :
    Inserts ⟨name, .tag⟩ (name ++ ['>']) []
  | tag {name : Text} (h : ¬ Vocabulary.isVoid name) :
    Inserts ⟨name, .tag⟩ (name ++ ['>']) (Shorthand.closingTag name)
  | voidElement {name : Text} (h : Vocabulary.isVoid name) :
    Inserts ⟨name, .element⟩ ('<' :: (name ++ ['>'])) []
  | element {name : Text} (h : ¬ Vocabulary.isVoid name) :
    Inserts ⟨name, .element⟩ ('<' :: (name ++ ['>'])) (Shorthand.closingTag name)
  /-- Of a family of attributes only the front is known, up to a dash. -/
  | family {stem : Text} (h : stem.getLast? = some '-') :
    Inserts ⟨stem ++ ['*'], .attribute⟩ stem []
  | boolean {name : Text} (h : Vocabulary.isBooleanAttribute name) :
    Inserts ⟨name, .attribute⟩ name []
  | valued {name : Text} (hfamily : ∀ stem, name = stem ++ ['*'] → stem.getLast? ≠ some '-')
      (hboolean : ¬ Vocabulary.isBooleanAttribute name) :
    Inserts ⟨name, .attribute⟩ (name ++ ['=', '"']) ['"']

/-- What an accepted suggestion inserts, and the caret inside it. -/
def insertion (s : Suggestion) : Text × Nat :=
  match s.kind with
  | .tag => tagInsertion s.value
  | .element => elementInsertion s.value
  | .attribute => attributeInsertion s.value

variable {s : Suggestion} {left right : Text}

theorem exists_inserts (s : Suggestion) : ∃ left right, s.Inserts left right := by
  obtain ⟨name, kind⟩ := s
  cases kind with
  | tag =>
    by_cases h : Vocabulary.isVoid name
    · exact ⟨_, _, .voidTag h⟩
    · exact ⟨_, _, .tag h⟩
  | element =>
    by_cases h : Vocabulary.isVoid name
    · exact ⟨_, _, .voidElement h⟩
    · exact ⟨_, _, .element h⟩
  | _ =>
    by_cases hboolean : Vocabulary.isBooleanAttribute name
    · exact ⟨_, _, .boolean hboolean⟩
    · by_cases hfamily : ∃ stem, name = stem ++ ['*'] ∧ stem.getLast? = some '-'
      · obtain ⟨stem, rfl, h⟩ := hfamily
        exact ⟨_, _, .family h⟩
      · exact ⟨_, _, .valued (fun stem hname h => hfamily ⟨stem, hname, h⟩) hboolean⟩

/-- **The caret goes between the two parts.** -/
theorem Inserts.insertion_eq (h : s.Inserts left right) :
    s.insertion = (left ++ right, size left) := by
  cases h with
  | voidTag h => simp [insertion, tagInsertion, h]
  | tag h => simp [insertion, tagInsertion, h]
  | voidElement h =>
    simp [insertion, elementInsertion, tagInsertion, h]
    omega
  | element h =>
    simp [insertion, elementInsertion, tagInsertion, h]
    omega
  | family h =>
    simp [insertion, attributeInsertion, Vocabulary.familyStem?_eq_some_iff.2 ⟨rfl, h⟩]
  | boolean h =>
    simp [insertion, attributeInsertion, Vocabulary.familyStem?_of_isBooleanAttribute h, h]
  | @valued name hfamily hboolean =>
    have hnone : Vocabulary.familyStem? name = none := by
      rw [Option.eq_none_iff_forall_ne_some]
      intro stem hstem
      obtain ⟨hname, hlast⟩ := Vocabulary.familyStem?_eq_some_iff.1 hstem
      exact hfamily stem hname hlast
    simp [insertion, attributeInsertion, hnone, hboolean]
    decide

/-- An insertion has its two parts from the caret. -/
theorem inserts_iff : s.Inserts left right ↔ s.insertion = (left ++ right, size left) := by
  refine ⟨Inserts.insertion_eq, fun h => ?_⟩
  obtain ⟨left', right', hs⟩ := exists_inserts s
  rw [hs.insertion_eq, Prod.mk.injEq] at h
  obtain ⟨hl, hr⟩ := append_inj_of_size h.1 h.2
  exact hl ▸ hr ▸ hs

/-! ## Acceptance -/

theorem replacement?_of_replaces {before head run : Text}
    (hb : splitTrailing s.kind.tokenChar before = (head, run)) (h : s.kind.Replaces head run) :
    s.replacement? before = some (head, s.insertion) := by
  obtain ⟨name, kind⟩ := s
  cases kind with
  | tag =>
    have hangle : head.getLast? = some '<' := h
    simp only [SuggestionKind.tokenChar] at hb
    simp [replacement?, hb, hangle, insertion]
  | element =>
    have hrun : run ≠ [] := h
    simp only [SuggestionKind.tokenChar] at hb
    simp [replacement?, hb, hrun, insertion]
  | _ =>
    simp only [SuggestionKind.tokenChar] at hb
    simp [replacement?, hb, insertion]

theorem replacement?_of_not_replaces {before head run : Text}
    (hb : splitTrailing s.kind.tokenChar before = (head, run)) (h : ¬ s.kind.Replaces head run) :
    s.replacement? before = none := by
  obtain ⟨name, kind⟩ := s
  cases kind with
  | tag =>
    have hangle : ¬ head.getLast? = some '<' := h
    simp only [SuggestionKind.tokenChar] at hb
    simp [replacement?, hb, hangle]
  | element =>
    have hrun : run = [] := not_not.1 h
    simp only [SuggestionKind.tokenChar] at hb
    simp [replacement?, hb, hrun]
  | _ => exact absurd trivial h

end Suggestion

namespace Buffer

open Suggestion

variable {s : Suggestion} {before head run left right : Text}

/-- **An accepted suggestion takes the place of the run before the caret** and of nothing else. -/
theorem accept?_of_replaces (after : Text)
    (hb : splitTrailing s.kind.tokenChar before = (head, run)) (h : s.kind.Replaces head run)
    (hs : s.Inserts left right) :
    accept? s (before ++ after) (size before) =
      some ⟨head ++ (left ++ right) ++ after, size (head ++ left)⟩ := by
  rw [accept?_eq, accept, splitAt?_append]
  simp only [replacement?_of_replaces hb h, hs.insertion_eq, size_append]

/-- Where there is nothing to replace, nothing is inserted. -/
theorem accept?_of_not_replaces (after : Text)
    (hb : splitTrailing s.kind.tokenChar before = (head, run)) (h : ¬ s.kind.Replaces head run) :
    accept? s (before ++ after) (size before) = some ⟨before ++ after, size before⟩ := by
  rw [accept?_eq, accept, splitAt?_append]
  simp only [replacement?_of_not_replaces hb h]

/-- At an offset within a character or past the end nothing is inserted. -/
theorem accept?_of_not_isBoundary {t : Text} {caret : Nat} (h : t.before? caret = none) :
    accept? s t caret = some ⟨t, caret⟩ := by
  rw [accept?, h]

end Buffer

end MarkupPad
