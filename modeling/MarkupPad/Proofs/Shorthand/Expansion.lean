import MarkupPad.Proofs.Buffer.Completion
import MarkupPad.Proofs.Shorthand.Spelling

/-!
# Shorthand becomes the element it spells

A shorthand that stands at the front of a text, behind a blank or behind a `>` is found by Enter
as it is written, is read as the tag, the classes and the id it spells, and gives way to the
element with these.

    ofToken s.text = ⟨s.name, s.classes, s.ids.getLast?⟩                         (ofToken_text)
    (ofToken s.text).openTagHead = s.opening                                 (openTagHead_text)
    Trigger.at? (before ++ s.text ++ after) (size (before ++ s.text)) =
      some (.shorthand ⟨size before, s.text⟩)     where `before` may stand before it    (at?_text)
-/

namespace MarkupPad

open Text

namespace Shorthand

/-! ## The element that is spelled -/

/-- The names of the selectors with a mark, in order. -/
def named (mark : Char) (l : List Selector) : List Text :=
  (l.filter fun s => s.mark = mark).map (·.name)

namespace Spelling

variable (s : Spelling)

/-- The name of the element; where no tag is written it is `div`. -/
def name : Text := if s.tag = [] then "div".toList else s.tag

/-- The classes of the element. -/
def classes : List Text := named '.' s.selectors

/-- The ids that are written; the element has the last one. -/
def ids : List Text := named '#' s.selectors

/-- The attributes of the element, each with its value. -/
def attributes : List (Text × Text) :=
  s.ids.getLast?.toList.map ("id".toList, ·) ++
    if s.classes = [] then [] else [("class".toList, join [' '] s.classes)]

/-- The opening tag of the element, up to its `>`. -/
def opening : Text :=
  '<' :: s.name ++ s.attributes.flatMap fun (key, value) =>
    [' '] ++ key ++ ['=', '"'] ++ value ++ ['"']

end Spelling

/-! ## Reading -/

section
variable {t : Text} (ht : ∀ c ∈ t, isSelectorChar c) (l : List Selector)
include ht

theorem takeWhile_selectors :
    (t ++ l.flatMap Selector.text).takeWhile (fun c => !isMark c) = t := by
  have hnot : ∀ c ∈ t, !isMark c := fun c hc => by rw [not_isMark_of_isSelectorChar (ht c hc)]; rfl
  rw [List.takeWhile_append_of_pos hnot]
  cases l with
  | nil => simp
  | cons s l => simp [Selector.text, s.isMark_mark]

theorem dropWhile_selectors :
    (t ++ l.flatMap Selector.text).dropWhile (fun c => !isMark c) = l.flatMap Selector.text := by
  have hnot : ∀ c ∈ t, !isMark c := fun c hc => by rw [not_isMark_of_isSelectorChar (ht c hc)]; rfl
  rw [List.dropWhile_append_of_pos hnot]
  cases l with
  | nil => rfl
  | cons s l => simp [Selector.text, s.isMark_mark]

end

/-- **Selectors add their names**: classes come behind each other, and the last id is kept. -/
theorem addAll_selectors (element : Shorthand) (l : List Selector) :
    element.addAll (l.flatMap Selector.text) =
      ⟨element.tag, element.classes ++ named '.' l, (named '#' l).getLast?.or element.id⟩ := by
  induction l generalizing element with
  | nil => simp [named, addAll]
  | cons s l ih =>
    have htext : (s :: l).flatMap Selector.text =
        s.mark :: (s.name ++ l.flatMap Selector.text) := rfl
    rw [htext, addAll, takeWhile_selectors s.isSelectorChar_name,
      dropWhile_selectors s.isSelectorChar_name, ih, add, if_neg s.name_ne_nil]
    by_cases hclass : s.mark = '.'
    · simp [named, hclass]
    · have hid : s.mark = '#' := by
        have hmark := s.isMark_mark
        simpa [isMark, hclass] using hmark
      simp [named, hid, List.getLast?_cons]

theorem ofToken_text (s : Spelling) : ofToken s.text = ⟨s.name, s.classes, s.ids.getLast?⟩ := by
  have htag : ∀ c ∈ s.tag, isSelectorChar c := fun c hc =>
    isSelectorChar_of_isAlphanum (s.isAlphanum_tag c hc)
  rw [ofToken, Spelling.text]
  simp only [takeWhile_selectors htag, dropWhile_selectors htag, addAll_selectors, List.nil_append,
    Option.or_none]
  rfl

/-- The element has the attributes that are spelled, and no other. -/
theorem openTagHead_text (s : Spelling) : (ofToken s.text).openTagHead = s.opening := by
  rw [ofToken_text, openTagHead, Spelling.opening, Spelling.attributes]
  by_cases hclasses : s.classes = []
  · cases s.ids.getLast? with
    | none => simp [hclasses]
    | some id => simp [hclasses]
  · cases s.ids.getLast? with
    | none => simp [hclasses]
    | some id => simp [hclasses]

theorem named_ne_nil_iff {mark : Char} {l : List Selector} :
    named mark l ≠ [] ↔ ∃ s ∈ l, s.mark = mark := by
  simp [named]

theorem map_fst_attributes (s : Spelling) :
    s.attributes.map (·.1) =
      (if s.ids = [] then [] else ["id".toList]) ++
        if s.classes = [] then [] else ["class".toList] := by
  have hids : (s.ids.getLast?.toList.map fun id => ("id".toList, id)).map (·.1) =
      if s.ids = [] then [] else ["id".toList] := by
    rcases List.eq_nil_or_concat s.ids with h | ⟨l, id, h⟩
    · simp [h]
    · simp [h]
  rw [Spelling.attributes, List.map_append, hids, apply_ite (List.map Prod.fst)]
  rfl

/-- An id is there just when one is written. -/
theorem id_mem_attributes_iff (s : Spelling) :
    "id".toList ∈ s.attributes.map (·.1) ↔ ∃ selector ∈ s.selectors, selector.mark = '#' := by
  rw [← named_ne_nil_iff, map_fst_attributes]
  show _ ↔ s.ids ≠ []
  by_cases h : s.ids = []
  · simp [h]
  · simp [h]

/-- Classes are there just when one is written. -/
theorem class_mem_attributes_iff (s : Spelling) :
    "class".toList ∈ s.attributes.map (·.1) ↔ ∃ selector ∈ s.selectors, selector.mark = '.' := by
  rw [← named_ne_nil_iff, map_fst_attributes]
  show _ ↔ s.classes ≠ []
  by_cases h : s.classes = []
  · simp [h]
  · simp [h]

/-! ## Finding -/

variable {s : Spelling} {before : Text}

theorem two_le_length_text (s : Spelling) : 2 ≤ s.text.length := by
  obtain ⟨selector, l, hl⟩ := List.exists_cons_of_ne_nil s.selectors_ne_nil
  have hname := List.length_pos_iff.2 selector.name_ne_nil
  simp [Spelling.text, hl, Selector.text]
  omega

/-- What a text ends with that is no longer than its shorthand is spelled with it. -/
theorem not_endsWith {tail : Text} (hlen : tail.length ≤ 2) {c : Char} (hc : c ∈ tail)
    (hno : isSelectorChar c = false ∧ isMark c = false) (s : Spelling) (before : Text) :
    endsWith (before ++ s.text) tail = false := by
  rw [← Bool.not_eq_true, endsWith, List.isSuffixOf_iff_suffix]
  intro htail
  have hsuffix : tail <:+ s.text := List.suffix_of_suffix_length_le htail
    (List.suffix_append before s.text) (Nat.le_trans hlen (two_le_length_text s))
  have hmem := s.forall_mem_text c (hsuffix.mem hc)
  rw [hno.1, hno.2] at hmem
  simp at hmem

/-- A shorthand does not reach over a character that is neither mark nor letter. -/
theorem isLongestSpelling_text
    (hb : ∀ c ∈ before.getLast?, isSelectorChar c = false ∧ isMark c = false) :
    IsLongestSpelling (before ++ s.text) s.text where
  isSuffix := List.suffix_append before s.text
  exists_spelling := ⟨s, rfl⟩
  length_le s' hs' := by
    have hb' : ∀ c ∈ before.getLast?, (isSelectorChar c || isMark c) = false := by
      simpa using hb
    have hall : ∀ c ∈ s'.text, isSelectorChar c || isMark c := by
      simpa using s'.forall_mem_text
    exact (suffix_of_all _ hb' hall hs').length_le

theorem at?_text (after : Text)
    (hb : ∀ c ∈ before.getLast?, isSelectorChar c = false ∧ isMark c = false) :
    Trigger.at? (before ++ s.text ++ after) (size (before ++ s.text)) =
      some (.shorthand ⟨size before, s.text⟩) := by
  have htoken : token? (before ++ s.text) = some ⟨size before, s.text⟩ :=
    token?_eq_some_iff.2 ⟨isLongestSpelling_text hb, (size_append before s.text).symm⟩
  have hboilerplate : Trigger.endsBoilerplate (before ++ s.text) = false :=
    not_endsWith (by decide) (c := '!') (by decide) (by decide) s before
  have hcomment : Trigger.endsComment (before ++ s.text) = false :=
    not_endsWith (by decide) (c := '<') (by decide) (by decide) s before
  rw [Trigger.at?, before?_append]
  simp only [hboilerplate, hcomment, Bool.false_eq_true, if_false, htoken]

end Shorthand

namespace Buffer

open Shorthand

/-- Characters that end a word in markup are not spelled in shorthand. -/
theorem not_spelled_of_ends {c : Char} (h : isBlank c ∨ c = '>') :
    isSelectorChar c = false ∧ isMark c = false := by
  rcases h with h | rfl
  · exact ⟨asciiClass_isSelectorChar.eq_false_of_isBlank (by decide) h,
      asciiClass_isMark.eq_false_of_isBlank (by decide) h⟩
  · decide

/-- **Shorthand becomes the element it spells.**  Behind a blank, behind a `>` or at the front of
the text, Enter finds it as it is written; it is read as its tag, its classes in order and its last
id; and the element goes in for it, with the caret before the `>` of the opening tag. -/
theorem shorthand_becomes_its_element (s : Spelling) (before after : Text)
    (hb : ∀ c ∈ before.getLast?, isBlank c ∨ c = '>') :
    trigger? (before ++ s.text ++ after) (size (before ++ s.text)) =
      some (some (.shorthand ⟨size before, s.text⟩)) ∧
    ofToken? s.text = some ⟨s.name, s.classes, s.ids.getLast?⟩ ∧
    expand? (before ++ s.text ++ after) (size (before ++ s.text))
        (.shorthand ⟨size before, s.text⟩) =
      some ⟨before ++ s.opening ++ ['>'] ++ (['<', '/'] ++ s.name ++ ['>']) ++ after,
        size (before ++ s.opening)⟩ ∧
    ("id".toList ∈ s.attributes.map (·.1) ↔ ∃ selector ∈ s.selectors, selector.mark = '#') ∧
    ("class".toList ∈ s.attributes.map (·.1) ↔ ∃ selector ∈ s.selectors, selector.mark = '.') := by
  have hsplice := Completion.splice?_append before s.text after (Shorthand.ofToken s.text).element
    (size s.opening)
  refine ⟨?_, ?_, ?_, id_mem_attributes_iff s, class_mem_attributes_iff s⟩
  · rw [trigger?_eq, at?_text after fun c hc => not_spelled_of_ends (hb c hc)]
  · rw [ofToken?_eq, ofToken_text]
  · rw [expand?_eq, Trigger.expand?, Completion.shorthand?]
    simp only [Token.stop]
    rw [← size_append, openTagHead_text, hsplice, element, openTagHead_text, ofToken_text]
    simp [closingTag]

/-- Of two ids the last one stays, and the classes around it come together. -/
theorem shorthand_becomes_its_element_with_last_id :
    ∃ s : Spelling, s.text = "ul.a#b.c#d".toList ∧
      (∀ c ∈ "<p>".toList.getLast?, isBlank c ∨ c = '>') ∧
      expand? ("<p>".toList ++ s.text ++ "é".toList) (size ("<p>".toList ++ s.text))
          (.shorthand ⟨3, s.text⟩) =
        some ⟨"<p><ul id=\"d\" class=\"a c\"></ul>é".toList, 25⟩ := by
  have hb : ∀ c ∈ "<p>".toList.getLast?, isBlank c ∨ c = '>' := by simp
  refine ⟨⟨"ul".toList,
    [⟨'.', ['a'], rfl, nofun, List.forall_mem_singleton.2 rfl⟩,
      ⟨'#', ['b'], rfl, nofun, List.forall_mem_singleton.2 rfl⟩,
      ⟨'.', ['c'], rfl, nofun, List.forall_mem_singleton.2 rfl⟩,
      ⟨'#', ['d'], rfl, nofun, List.forall_mem_singleton.2 rfl⟩],
    List.all_eq_true.1 rfl, nofun⟩, by decide +kernel, hb, ?_⟩
  obtain ⟨-, -, hexpand, -, -⟩ := shorthand_becomes_its_element _ "<p>".toList "é".toList hb
  exact hexpand.trans (by decide +kernel)

end Buffer

end MarkupPad
