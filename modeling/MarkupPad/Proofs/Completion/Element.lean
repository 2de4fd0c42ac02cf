import MarkupPad.Proofs.Element.Renaming
import MarkupPad.Proofs.Buffer.Closing
import MarkupPad.Proofs.Shorthand
import MarkupPad.Proofs.Suggestion.Context

/-!
# Elements that completions make

An element comes into the text in four ways: a `>` ends its opening tag, Enter expands its
shorthand, or a suggestion is accepted, for its tag behind a `<` or for the whole element.  The
closing tag comes along, except that a void element has none; only a shorthand brings it along
for every element.  Where it does, it balances the opening tag, whatever tags stand before and
behind, since no `<` stands between the two.

    closing? (head ++ '<' :: inner ++ closingTag name ++ tail) (size head) name =
      some (size (head ++ '<' :: inner))                              where `<` is not in inner
                                                                               (closing?_pair)
-/

namespace MarkupPad

open Text

/-! ## A pair of tags -/

/-- **A closing tag balances its opening tag when no `<` stands between them**, whatever stands
around the two. -/
theorem Element.closing?_pair (head name tail : Text) {inner : Text} (h : '<' ∉ inner) :
    closing? (head ++ '<' :: inner ++ Shorthand.closingTag name ++ tail) (size head) name =
      some (size (head ++ '<' :: inner)) := by
  have hcut : head ++ '<' :: inner ++ Shorthand.closingTag name ++ tail =
      (head ++ ['<']) ++ (inner ++ ('<' :: ('/' :: (name ++ '>' :: tail)))) := by
    simp [Shorthand.closingTag]
  have hcloses : closes name ('/' :: (name ++ '>' :: tail)) :=
    closes_iff.2 ⟨name, tail, rfl, .refl name⟩
  have hlt : size head < 0 + size (head ++ ['<']) + size inner := by
    simp
    omega
  -- The scan starts behind the `<` of the opening tag, and the next `<` is the closing tag's.
  rw [closing?, hcut, closingFrom?_append_of_le (by simp), closingFrom?_append_of_not_mem h,
    closingFrom?_cons, if_pos ⟨rfl, hlt⟩, if_pos hcloses]
  simp
  omega

/-- A text with no more than two letters beside the name holds no closing tag of the name. -/
theorem Shorthand.not_closingTag_infix {name t : Text} (h : t.length ≤ name.length + 2) :
    ¬ closingTag name <:+: t := by
  intro hinfix
  have hle := hinfix.length_le
  simp [closingTag] at hle
  omega

/-- A suggestion brings a closing tag along just for an element that is not void. -/
theorem Suggestion.Inserts.closingTag_infix_iff {s : Suggestion} {left right : Text}
    (h : s.Inserts left right) (hkind : s.kind ≠ .attribute) :
    Shorthand.closingTag s.value <:+: left ++ right ↔ ¬ Vocabulary.isVoid s.value := by
  cases h with
  | voidTag hvoid => exact iff_of_false (Shorthand.not_closingTag_infix (by simp)) (not_not.2 hvoid)
  | tag hvoid => exact iff_of_true (List.suffix_append _ _).isInfix hvoid
  | voidElement hvoid =>
    exact iff_of_false (Shorthand.not_closingTag_infix (by simp)) (not_not.2 hvoid)
  | element hvoid => exact iff_of_true (List.suffix_append _ _).isInfix hvoid
  | family => exact absurd rfl hkind
  | boolean => exact absurd rfl hkind
  | valued => exact absurd rfl hkind

/-! ## The four ways -/

namespace Buffer

variable {before head run : Text} {token : Token} {context : Context} {name : Text}

/-- The element goes in for its shorthand. -/
theorem expand?_shorthand (after : Text) (h : shorthand? before = some (some token)) :
    ∃ head inner, before = head ++ token.text ∧ token.start = size head ∧ '<' ∉ inner ∧
      expand? (before ++ after) (size before) (.shorthand token) =
        some ⟨head ++ ('<' :: (inner ++ ['>']) ++
          Shorthand.closingTag (Shorthand.ofToken token.text).tag) ++ after,
          size (head ++ '<' :: inner)⟩ := by
  rw [shorthand?_eq, Option.some.injEq] at h
  obtain ⟨head, rfl, hstart⟩ := Shorthand.token?_suffix h
  have hplain : ∀ c ∈ token.text, c ≠ '<' := by
    rintro c hc rfl
    exact absurd (Shorthand.forall_mem_token? h '<' hc) (by decide)
  have hdiv : ∀ c ∈ "div".toList, c ≠ '<' := by simp
  obtain ⟨inner, hinner, hnot⟩ :=
    Shorthand.exists_openTagHead (Shorthand.consists_ofToken hdiv hplain)
  refine ⟨head, inner, rfl, hstart, hnot, ?_⟩
  have hstop : token.stop = size (head ++ token.text) := by
    rw [Token.stop, hstart, size_append]
  have hsplice := Completion.splice?_append head token.text after
    (Shorthand.ofToken token.text).element (size ('<' :: inner))
  rw [expand?_eq, Trigger.expand?, Completion.shorthand?, hinner, hstart, hstop]
  simp only [Shorthand.element, hinner] at hsplice ⊢
  rw [hsplice]
  simp

/-- The rest of the opening tag and the closing tag go in for the selection. -/
theorem autoClose?_append (before selected after name : Text) :
    Completion.autoClose? (before ++ selected ++ after) (size before) (size (before ++ selected))
      name = some ⟨before ++ (['>'] ++ Shorthand.closingTag name) ++ after, size before + 1⟩ :=
  Completion.splice?_append before selected after _ 1

/-- A tag is closed with its `>` just when it is not void. -/
theorem autoClosed?_of_endedBy? (h : Element.endedBy? before = some name) :
    autoClosed? before = some (if Vocabulary.isVoid name then none else some name) := by
  rw [autoClosed?_eq, Element.autoClosed?, h]
  cases hvoid : Vocabulary.isVoid name with
  | false => simp [hvoid]
  | true => simp [hvoid]

/-- A tag goes in for a part of its name, behind the `<`. -/
theorem accept?_tag (name after : Text) {left right : Text}
    (h : tag? before = some (some context)) (hs : Suggestion.Inserts ⟨name, .tag⟩ left right) :
    ∃ head, before = head ++ '<' :: context.token.text ∧
      context.token.start = size (head ++ ['<']) ∧
      accept? ⟨name, .tag⟩ (before ++ after) (size before) =
        some ⟨head ++ ['<'] ++ (left ++ right) ++ after, size (head ++ ['<'] ++ left)⟩ := by
  have hdetect : Context.detect? .tag before = some context :=
    Option.some.inj ((tag?_eq before).symm.trans h)
  obtain ⟨head, run, hb, rfl, hangle⟩ := Context.exists_of_detect? hdetect
  obtain ⟨head, rfl⟩ := List.getLast?_eq_some_iff.1 hangle
  refine ⟨head, ?_, rfl, accept?_of_replaces after hb hangle hs⟩
  rw [eq_append_of_splitTrailing _ hb]
  simp

/-- An element goes in for a word. -/
theorem accept?_element (name after : Text) {left right : Text}
    (h : trailing? Char.isAlphanum before = some token) (hword : token.text ≠ [])
    (hs : Suggestion.Inserts ⟨name, .element⟩ left right) :
    ∃ head, before = head ++ token.text ∧ token.start = size head ∧
      accept? ⟨name, .element⟩ (before ++ after) (size before) =
        some ⟨head ++ (left ++ right) ++ after, size (head ++ left)⟩ := by
  rw [trailing?_eq asciiClass_isAlphanum, Option.some.injEq] at h
  subst h
  refine ⟨_, (splitTrailing_append Char.isAlphanum before).symm, rfl, ?_⟩
  exact accept?_of_replaces after rfl hword hs

/-! ## Void elements -/

/-- **A void element gets no closing tag from its `>` nor from a suggestion**, and every other
element gets one.  A shorthand gives one to every element, void or not. -/
theorem closing_tag_goes_with_element (before selected after : Text) :
    (∀ name, Element.endedBy? before = some name →
      autoClosed? before = some (if Vocabulary.isVoid name then none else some name) ∧
      ∃ insertion caret,
        Completion.autoClose? (before ++ selected ++ after) (size before)
          (size (before ++ selected)) name = some ⟨before ++ insertion ++ after, caret⟩ ∧
        Shorthand.closingTag name <:+: insertion) ∧
    (∀ token, shorthand? before = some (some token) → ∃ head insertion caret,
      before = head ++ token.text ∧
      expand? (before ++ after) (size before) (.shorthand token) =
        some ⟨head ++ insertion ++ after, caret⟩ ∧
      Shorthand.closingTag (Shorthand.ofToken token.text).tag <:+: insertion) ∧
    (∀ name context, tag? before = some (some context) → ∃ head insertion caret,
      before = head ++ context.token.text ∧
      accept? ⟨name, .tag⟩ (before ++ after) (size before) =
        some ⟨head ++ insertion ++ after, caret⟩ ∧
      (Shorthand.closingTag name <:+: insertion ↔ ¬ Vocabulary.isVoid name)) ∧
    (∀ name token, trailing? Char.isAlphanum before = some token → token.text ≠ [] →
      ∃ head insertion caret, before = head ++ token.text ∧
      accept? ⟨name, .element⟩ (before ++ after) (size before) =
        some ⟨head ++ insertion ++ after, caret⟩ ∧
      (Shorthand.closingTag name <:+: insertion ↔ ¬ Vocabulary.isVoid name)) := by
  refine ⟨?_, ?_, ?_, ?_⟩
  · intro name hname
    exact ⟨autoClosed?_of_endedBy? hname, _, _, autoClose?_append before selected after name,
      (List.suffix_append _ _).isInfix⟩
  · intro token htoken
    obtain ⟨head, inner, hcut, -, -, hexpand⟩ := expand?_shorthand after htoken
    exact ⟨head, _, _, hcut, hexpand, (List.suffix_append _ _).isInfix⟩
  · intro name context hcontext
    obtain ⟨left, right, hs⟩ := Suggestion.exists_inserts ⟨name, .tag⟩
    obtain ⟨head, hcut, -, haccept⟩ := accept?_tag name after hcontext hs
    exact ⟨head ++ ['<'], _, _, by simpa using hcut, haccept, hs.closingTag_infix_iff nofun⟩
  · intro name token htoken hword
    obtain ⟨left, right, hs⟩ := Suggestion.exists_inserts ⟨name, .element⟩
    obtain ⟨head, hcut, -, haccept⟩ := accept?_element name after htoken hword hs
    exact ⟨head, _, _, hcut, haccept, hs.closingTag_infix_iff nofun⟩

/-- The shorthand of an image brings a closing tag along. -/
theorem not_all_shorthands_spare_void_elements :
    ¬ ∀ (before after head insertion : Text) (token : Token) (caret : Nat),
      shorthand? before = some (some token) → before = head ++ token.text →
      expand? (before ++ after) (size before) (.shorthand token) =
        some ⟨head ++ insertion ++ after, caret⟩ →
      (Shorthand.closingTag (Shorthand.ofToken token.text).tag <:+: insertion ↔
        ¬ Vocabulary.isVoid (Shorthand.ofToken token.text).tag) := by
  intro hall
  have htoken : shorthand? "img.photo".toList = some (some ⟨0, "img.photo".toList⟩) := by
    decide +kernel
  have hspares := hall _ [] [] "<img class=\"photo\"></img>".toList _ 18 htoken rfl (by decide +kernel)
  revert hspares
  decide +kernel

/-! ## Balanced pairs -/

/-- A suggestion that is offered for some text. -/
def IsOffered (s : Suggestion) : Prop :=
  ∃ before limit offered, offer? before limit = some offered ∧ s ∈ offered

theorem not_mem_of_isOffered {s : Suggestion} (h : IsOffered s) (hkind : s.kind ≠ .attribute) :
    '<' ∉ s.value := by
  have hplain : ∀ word ∈ Vocabulary.tags, '<' ∉ word := by decide +kernel
  obtain ⟨before, limit, offered, hoffered, hs⟩ := h
  rw [offer?_eq, Option.some.injEq] at hoffered
  subst hoffered
  obtain ⟨-, -, -, hmem, -⟩ := Suggestion.exists_context_of_mem_offer hs
  refine hplain s.value ?_
  cases hk : s.kind with
  | tag => rwa [hk] at hmem
  | element => rwa [hk] at hmem
  | _ => exact absurd hk hkind

/-- The pair that an expanded shorthand leaves is balanced. -/
theorem closing?_expanded (after : Text) (h : shorthand? before = some (some token)) :
    ∃ c, expand? (before ++ after) (size before) (.shorthand token) = some c ∧
      closing? c.text token.start (Shorthand.ofToken token.text).tag = some (c.caret + 1) := by
  obtain ⟨head, inner, -, hstart, hnot, hexpand⟩ := expand?_shorthand after h
  refine ⟨_, hexpand, ?_⟩
  have hinner : '<' ∉ inner ++ ['>'] := by simp [hnot]
  have hpair := Element.closing?_pair head (Shorthand.ofToken token.text).tag after hinner
  rw [closing?_eq, hstart, ← List.append_assoc head, hpair]
  simp [Nat.add_assoc]

section
variable {s : Suggestion} (hs : IsOffered s) (hvoid : ¬ Vocabulary.isVoid s.value)

include hs hvoid

/-- The pair that an accepted tag leaves is balanced. -/
theorem closing?_accepted_tag (after : Text) (hkind : s.kind = .tag)
    (h : tag? before = some (some context)) :
    ∃ c angle, context.token.start = angle + 1 ∧
      accept? s (before ++ after) (size before) = some c ∧
      closing? c.text angle s.value = some c.caret := by
  have hname := not_mem_of_isOffered hs (by simp [hkind])
  obtain ⟨name, kind⟩ := s
  cases hkind
  obtain ⟨head, -, hstart, haccept⟩ := accept?_tag name after h (.tag hvoid)
  refine ⟨_, size head, by simpa using hstart, haccept, ?_⟩
  have hinner : '<' ∉ name ++ ['>'] := by simpa using hname
  have hpair := Element.closing?_pair head name after hinner
  rw [closing?_eq]
  simpa using hpair

/-- The pair that an accepted element leaves is balanced. -/
theorem closing?_accepted_element (after : Text) (hkind : s.kind = .element)
    (h : trailing? Char.isAlphanum before = some token) (hword : token.text ≠ []) :
    ∃ c, accept? s (before ++ after) (size before) = some c ∧
      closing? c.text token.start s.value = some c.caret := by
  have hname := not_mem_of_isOffered hs (by simp [hkind])
  obtain ⟨name, kind⟩ := s
  cases hkind
  obtain ⟨head, -, hstart, haccept⟩ := accept?_element name after h hword (.element hvoid)
  refine ⟨_, haccept, ?_⟩
  have hinner : '<' ∉ name ++ ['>'] := by simpa using hname
  have hpair := Element.closing?_pair head name after hinner
  rw [closing?_eq, hstart]
  simpa using hpair

end

/-- What a `>` also closes is the tag that is not ended yet, where it stands. -/
theorem exists_of_autoClosed? (h : autoClosed? before = some (some name)) :
    ∃ head attributes, before = head ++ '<' :: (name ++ attributes) ∧
      unfinished? false before = some (some (size (head ++ ['<']), size name)) := by
  rw [autoClosed?_eq, Option.some.injEq] at h
  obtain ⟨hended, -⟩ := Option.filter_eq_some_iff.1 h
  obtain ⟨⟨name, attributes⟩, hfound, rfl⟩ := Option.map_eq_some_iff.1 hended
  obtain ⟨head, hcut⟩ := Element.unfinished?_suffix hfound
  refine ⟨head, attributes, hcut, ?_⟩
  rw [unfinished?_eq, hfound, hcut]
  simp
  omega

/-- The pair that a `>` completes is balanced when no `<` stands in the opening tag. -/
theorem closing?_autoClosed (head name attributes selected after : Text)
    (h : '<' ∉ name ++ attributes) :
    ∃ c, Completion.autoClose? (head ++ '<' :: (name ++ attributes) ++ selected ++ after)
        (size (head ++ '<' :: (name ++ attributes)))
        (size (head ++ '<' :: (name ++ attributes) ++ selected)) name = some c ∧
      closing? c.text (size head) name = some c.caret := by
  refine ⟨_, autoClose?_append _ selected after name, ?_⟩
  have hinner : '<' ∉ name ++ attributes ++ ['>'] := by simpa using h
  have hpair := Element.closing?_pair head name after hinner
  rw [closing?_eq]
  simpa [Nat.add_assoc] using hpair

/-- **The two tags that a completion brings together are a pair**, whatever tags of whatever name
stand before and after them. -/
theorem inserted_pair_is_balanced (before selected after : Text) :
    (∀ token, shorthand? before = some (some token) →
      ∃ c, expand? (before ++ after) (size before) (.shorthand token) = some c ∧
        closing? c.text token.start (Shorthand.ofToken token.text).tag = some (c.caret + 1)) ∧
    (∀ s token, IsOffered s → s.kind = .element → ¬ Vocabulary.isVoid s.value →
      trailing? Char.isAlphanum before = some token → token.text ≠ [] →
      ∃ c, accept? s (before ++ after) (size before) = some c ∧
        closing? c.text token.start s.value = some c.caret) ∧
    (∀ s context, IsOffered s → s.kind = .tag → ¬ Vocabulary.isVoid s.value →
      tag? before = some (some context) →
      ∃ c angle, context.token.start = angle + 1 ∧
        accept? s (before ++ after) (size before) = some c ∧
        closing? c.text angle s.value = some c.caret) ∧
    (∀ name, autoClosed? before = some (some name) →
      ∃ head attributes, before = head ++ '<' :: (name ++ attributes) ∧
        unfinished? false before = some (some (size (head ++ ['<']), size name)) ∧
        ('<' ∉ name ++ attributes →
          ∃ c, Completion.autoClose? (before ++ selected ++ after) (size before)
              (size (before ++ selected)) name = some c ∧
            closing? c.text (size head) name = some c.caret)) := by
  refine ⟨?_, ?_, ?_, ?_⟩
  · intro token htoken
    exact closing?_expanded after htoken
  · intro s token hs hkind hvoid htoken hword
    exact closing?_accepted_element hs hvoid after hkind htoken hword
  · intro s context hs hkind hvoid hcontext
    exact closing?_accepted_tag hs hvoid after hkind hcontext
  · intro name hname
    obtain ⟨head, attributes, rfl, htag⟩ := exists_of_autoClosed? hname
    exact ⟨head, attributes, rfl, htag, closing?_autoClosed head name attributes selected after⟩

/-- The pair that `b.x` becomes is balanced behind an element of its name that is left open and
before a closing tag that is not its own. -/
theorem inserted_pair_is_balanced_among_others :
    let token : Token := ⟨3, "b.x".toList⟩
    shorthand? "<b>b.x".toList = some (some token) ∧
      ∃ c, expand? ("<b>b.x".toList ++ "</b>".toList) 6 (.shorthand token) = some c ∧
        closing? c.text 3 "b".toList = some (c.caret + 1) := by
  intro token
  have htoken : shorthand? "<b>b.x".toList = some (some token) := by decide +kernel
  have htag : (Shorthand.ofToken token.text).tag = "b".toList := by decide +kernel
  have hpair := (inserted_pair_is_balanced _ [] "</b>".toList).1 token htoken
  rw [htag] at hpair
  exact ⟨htoken, hpair⟩

end Buffer

end MarkupPad
