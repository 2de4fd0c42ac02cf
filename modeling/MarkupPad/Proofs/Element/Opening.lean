import MarkupPad.Proofs.Buffer.Token
import MarkupPad.Proofs.Element.Renaming
import MarkupPad.Proofs.Text.Pattern

/-!
# The unfinished tag as a pattern

The tag that a `>` would end, and the tag whose attributes are being typed, are given by patterns
that reach to the end of the text: a `<`, a name and all that follows without a `>`, where in the
second a blank comes right behind the name.  The scan from the last `>` on finds the leftmost match
in one go, since no match reaches over a `>`, and behind a `<` there is only one match to prefer.

    openTag.first? t = (unfinished? false t).map fun (name, rest) => [['<'], name, rest]
    spacedTag.first? t =
      (unfinished? true t).map fun (name, rest) =>
        [['<'], name, rest.takeWhile isBlank, rest.dropWhile isBlank]
-/

namespace MarkupPad

open Text

namespace Element

/-- An opening tag without its `>`: `<`, a name, and all that follows. -/
def openTag : Pattern := [.one (· = '<'), .many isNameChar, .any (· ≠ '>')]

/-- An opening tag without its `>`, with blanks behind the name. -/
def spacedTag : Pattern :=
  [.one (· = '<'), .many isNameChar, .many isBlank, .any (· ≠ '>')]

/-! ## What the patterns match -/

variable {t : Text} {groups : List Text}

theorem mem_cuts_openTag_iff :
    groups ∈ openTag.cuts t ↔ ∃ name rest, groups = [['<'], name, rest] ∧
      t = '<' :: (name ++ rest) ∧ (name ≠ [] ∧ ∀ c ∈ name, isNameChar c) ∧ '>' ∉ rest := by
  simp only [openTag, Pattern.mem_cuts_iff, List.forall₂_cons_left_iff, List.forall₂_nil_left_iff,
    Atom.Matches, decide_eq_true_eq]
  constructor
  · rintro ⟨rfl, _, _, ⟨_, rfl, rfl⟩, ⟨name, _, hname, ⟨rest, _, hrest, rfl, rfl⟩, rfl⟩, rfl⟩
    exact ⟨name, rest, rfl, by simp, hname, fun h => hrest '>' h rfl⟩
  · rintro ⟨name, rest, rfl, rfl, hname, hrest⟩
    refine ⟨by simp, _, _, ⟨'<', rfl, rfl⟩, ⟨name, _, hname, ⟨rest, _, ?_, rfl, rfl⟩, rfl⟩, rfl⟩
    rintro c hc rfl
    exact hrest hc

theorem mem_cuts_spacedTag_iff :
    groups ∈ spacedTag.cuts t ↔ ∃ name blanks rest, groups = [['<'], name, blanks, rest] ∧
      t = '<' :: (name ++ blanks ++ rest) ∧ (name ≠ [] ∧ ∀ c ∈ name, isNameChar c) ∧
      (blanks ≠ [] ∧ ∀ c ∈ blanks, isBlank c) ∧ '>' ∉ rest := by
  simp only [spacedTag, Pattern.mem_cuts_iff, List.forall₂_cons_left_iff,
    List.forall₂_nil_left_iff, Atom.Matches, decide_eq_true_eq]
  constructor
  · rintro ⟨rfl, _, _, ⟨_, rfl, rfl⟩,
      ⟨name, _, hname, ⟨blanks, _, hblanks, ⟨rest, _, hrest, rfl, rfl⟩, rfl⟩, rfl⟩, rfl⟩
    exact ⟨name, blanks, rest, rfl, by simp, hname, hblanks, fun h => hrest '>' h rfl⟩
  · rintro ⟨name, blanks, rest, rfl, rfl, hname, hblanks, hrest⟩
    refine ⟨by simp, _, _, ⟨'<', rfl, rfl⟩,
      ⟨name, _, hname, ⟨blanks, _, hblanks, ⟨rest, _, ?_, rfl, rfl⟩, rfl⟩, rfl⟩, rfl⟩
    rintro c hc rfl
    exact hrest hc

theorem forall_ne_of_suffix {rest : Text} (h : rest <:+ t) (ht : '>' ∉ t) :
    ∀ c ∈ rest, decide (c ≠ '>') := fun _ hc =>
  decide_eq_true (ne_of_mem_of_not_mem (h.subset hc) ht)

/-- A pattern matches just the tags that the scan stops at: from a `<` to the end of the text,
without a `>`, and with the name that is read behind the `<`. -/
structure IsTagPattern (spaced : Bool) (pattern : Pattern) (groupsOf : Text × Text → List Text) :
    Prop where
  unfinished : ∀ {t cut}, cut ∈ pattern.cuts t → t.head? = some '<' ∧ '>' ∉ t
  name : ∀ {t}, '>' ∉ t → (pattern.cuts ('<' :: t)).head? = (leadingName? spaced t).map groupsOf

theorem isTagPattern_openTag :
    IsTagPattern false openTag fun (name, rest) => [['<'], name, rest] where
  unfinished h := by
    obtain ⟨name, rest, -, rfl, ⟨-, hname⟩, hrest⟩ := mem_cuts_openTag_iff.1 h
    have hangle : '>' ∉ name := fun h => absurd (hname '>' h) (by decide)
    simp [hangle, hrest]
  name {t} ht := by
    by_cases hname : t.takeWhile isNameChar = []
    · have hnone : openTag.cuts ('<' :: t) = [] := by
        refine List.eq_nil_iff_forall_not_mem.2 fun cut h => ?_
        obtain ⟨name, rest, -, htag, ⟨hne, hall⟩, -⟩ := mem_cuts_openTag_iff.1 h
        rw [(List.cons.inj htag).2, List.takeWhile_append_of_pos hall] at hname
        exact hne (List.append_eq_nil_iff.1 hname).1
      simp [leadingName?, hnone, hname]
    · have hrest := forall_ne_of_suffix (List.dropWhile_suffix isNameChar) ht
      rw [openTag, Pattern.cuts_one_of_pos (by decide), List.head?_map,
        Pattern.head?_cuts_many hname (Pattern.head?_cuts_any_of_all hrest)]
      simp [leadingName?, hname]

theorem isTagPattern_spacedTag :
    IsTagPattern true spacedTag fun (name, rest) =>
      [['<'], name, rest.takeWhile isBlank, rest.dropWhile isBlank] where
  unfinished h := by
    obtain ⟨name, blanks, rest, -, rfl, ⟨-, hname⟩, ⟨-, hblanks⟩, hrest⟩ :=
      mem_cuts_spacedTag_iff.1 h
    have hangle : '>' ∉ name ++ blanks := by
      rw [List.mem_append, not_or]
      exact ⟨fun h => absurd (hname '>' h) (by decide), fun h => absurd (hblanks '>' h) (by decide)⟩
    simpa [hrest] using hangle
  name {t} ht := by
    by_cases hname : t.takeWhile isNameChar ≠ [] ∧ (t.dropWhile isNameChar).head?.any isBlank
    · have hblanks : (t.dropWhile isNameChar).takeWhile isBlank ≠ [] := by
        obtain ⟨c, rest, hrest⟩ := List.exists_cons_of_ne_nil (l := t.dropWhile isNameChar) (by
          rintro hnil
          simp [hnil] at hname)
        rw [hrest] at hname ⊢
        simpa using hname.2
      have hrest := forall_ne_of_suffix
        ((List.dropWhile_suffix isBlank).trans (List.dropWhile_suffix isNameChar)) ht
      rw [spacedTag, Pattern.cuts_one_of_pos (by decide), List.head?_map,
        Pattern.head?_cuts_many hname.1
          (Pattern.head?_cuts_many hblanks (Pattern.head?_cuts_any_of_all hrest))]
      simp [leadingName?, hname]
    · have hnone : spacedTag.cuts ('<' :: t) = [] := by
        refine List.eq_nil_iff_forall_not_mem.2 fun cut h => hname ?_
        obtain ⟨name, blanks, rest, -, htag, ⟨hne, hall⟩, ⟨hblanks, hblank⟩, -⟩ :=
          mem_cuts_spacedTag_iff.1 h
        obtain ⟨c, blanks, rfl⟩ := List.exists_cons_of_ne_nil hblanks
        have hc := hblank c List.mem_cons_self
        have hsplit := takeWhile_name hall (s := c :: blanks ++ rest)
          (by simp [asciiClass_isNameChar.eq_false_of_isBlank (by decide) hc])
        rw [(List.cons.inj htag).2, List.append_assoc, hsplit.1, hsplit.2]
        exact ⟨hne, by simpa using hc⟩
      simpa [hnone, leadingName?] using hname

/-! ## The leftmost match -/

section
variable {spaced : Bool} {pattern : Pattern} {groupsOf : Text × Text → List Text}
  (hp : IsTagPattern spaced pattern groupsOf)
include hp

theorem IsTagPattern.cuts_eq_nil (ht : t.head? = some '<' → '>' ∈ t) : pattern.cuts t = [] :=
  List.eq_nil_iff_forall_not_mem.2 fun _ h => (hp.unfinished h).2 (ht (hp.unfinished h).1)

theorem IsTagPattern.first?_of_not_mem (ht : '>' ∉ t) :
    pattern.first? t = (firstOpen? spaced t).map groupsOf := by
  induction t with
  | nil =>
    rw [Pattern.first?, hp.cuts_eq_nil (t := []) (by simp)]
    rfl
  | cons c t ih =>
    rw [List.mem_cons, not_or] at ht
    by_cases hc : c = '<'
    · subst hc
      rw [Pattern.first?, hp.name ht.2, firstOpen?, if_pos rfl, ih ht.2]
      cases leadingName? spaced t with
      | none => rfl
      | some found => rfl
    · have hnil := hp.cuts_eq_nil (t := c :: t) fun h => absurd (Option.some.inj h) hc
      rw [Pattern.first?_cons_of_cuts_eq_nil hnil, ih ht.2, firstOpen?, if_neg hc]

/-- No match reaches over a `>`. -/
theorem IsTagPattern.first?_append (head t : Text) :
    pattern.first? (head ++ '>' :: t) = pattern.first? t := by
  induction head with
  | nil => exact Pattern.first?_cons_of_cuts_eq_nil (hp.cuts_eq_nil fun _ => List.mem_cons_self)
  | cons c head ih =>
    have hnil := hp.cuts_eq_nil (t := c :: (head ++ '>' :: t)) fun _ => by simp
    rw [List.cons_append, Pattern.first?_cons_of_cuts_eq_nil hnil, ih]

/-- **The scan behind the last `>` finds the leftmost match.** -/
theorem IsTagPattern.first?_eq (t : Text) :
    pattern.first? t = (unfinished? spaced t).map groupsOf := by
  obtain ⟨head, rest, hb⟩ : ∃ head rest, splitTrailing (· != '>') t = (head, rest) :=
    ⟨_, _, rfl⟩
  have hrest : '>' ∉ rest := by
    have hall := all_splitTrailing (· != '>') t
    rw [hb] at hall
    exact fun h => absurd (hall '>' h) (by decide)
  have hskip : pattern.first? t = pattern.first? rest := by
    rw [eq_append_of_splitTrailing _ hb]
    rcases List.eq_nil_or_concat head with rfl | ⟨head, c, rfl⟩
    · rfl
    · have hc : c = '>' := by
        have hlast := getLast?_splitTrailing (· != '>') (t := t) (c := c) (by simp [hb])
        simpa using hlast
      rw [List.concat_eq_append, List.append_assoc, List.singleton_append, hc,
        hp.first?_append head rest]
  rw [hskip, hp.first?_of_not_mem hrest, unfinished?, hb]

end

/-- A name without a blank behind it does not keep a later one from being found. -/
example : spacedTag.first? "<p>a<b<i x".toList = some [['<'], ['i'], [' '], ['x']] := by
  decide +kernel

/-- What the leftmost match of an unfinished tag with blanks behind its name is made of. -/
theorem exists_of_first?_spacedTag (h : spacedTag.first? t = some groups) :
    ∃ head name blanks attributes, groups = [['<'], name, blanks, attributes] ∧
      t = head ++ ['<'] ++ name ++ blanks ++ attributes ∧
      (blanks ≠ [] ∧ ∀ c ∈ blanks, isBlank c) := by
  obtain ⟨tail, ⟨head, rfl⟩, hcut, -⟩ := Pattern.first?_eq_some_iff.1 h
  obtain ⟨name, blanks, attributes, rfl, rfl, -, hblanks, -⟩ :=
    mem_cuts_spacedTag_iff.1 (List.mem_of_mem_head? hcut)
  exact ⟨head, name, blanks, attributes, rfl, by simp, hblanks⟩

end Element

namespace Token

/-- The longest text of a class at the end of another. -/
structure IsLongestRun (p : Char → Bool) (t run : Text) : Prop where
  isSuffix : run <:+ t
  forall_mem : ∀ c ∈ run, p c
  length_le : ∀ other : Text, other <:+ t → (∀ c ∈ other, p c) → other.length ≤ run.length

theorem isLongestRun_trailing (p : Char → Bool) (t : Text) :
    IsLongestRun p t (trailing p t).text where
  isSuffix := ⟨_, splitTrailing_append p t⟩
  forall_mem := all_splitTrailing p t
  length_le other hother hall := by
    rw [← splitTrailing_append p t] at hother
    exact (suffix_of_all p (fun c hc => getLast?_splitTrailing p hc) hall hother).length_le

theorem stop_trailing (p : Char → Bool) (t : Text) : (trailing p t).stop = size t := by
  calc (trailing p t).stop
      = size ((splitTrailing p t).1 ++ (splitTrailing p t).2) := (size_append _ _).symm
    _ = size t := by rw [splitTrailing_append]

end Token

namespace Buffer

/-- **The unfinished tag is the leftmost match of its pattern**, both the one that a `>` would end
and the one whose attributes are being typed.  What is typed of an attribute is the run of letters
before the caret, and it lies within the attributes that are matched. -/
theorem open_tags_match_patterns (t : Text) :
    (Element.endedBy? t = (Element.openTag.first? t).bind (·[1]?) ∧
      ∃ found, unfinished? false t = some found ∧
        found.map (fun (start, length) => t.slice? start (start + length)) =
          (Element.endedBy? t).map some) ∧
    ∃ found, attribute? t = some found ∧
      (found.isSome ↔ ∃ tail cut, tail <:+ t ∧ cut ∈ Element.spacedTag.cuts tail) ∧
      ∀ context, found = some context → ∃ head name blanks attributes,
        Element.spacedTag.first? t = some [['<'], name, blanks, attributes] ∧
        t = head ++ ['<'] ++ name ++ blanks ++ attributes ∧
        context.kind = .attribute ∧ context.token.stop = size t ∧
        Token.IsLongestRun Token.isAttributeChar t context.token.text ∧
        context.token.text <:+ attributes := by
  refine ⟨⟨?_, _, unfinished?_eq false t, ?_⟩, _, attribute?_eq t, ?_, ?_⟩
  · rw [Element.isTagPattern_openTag.first?_eq, Element.endedBy?]
    cases Element.unfinished? false t with
    | none => rfl
    | some found => rfl
  · rw [Element.endedBy?]
    cases h : Element.unfinished? false t with
    | none => rfl
    | some found => simp only [Option.map_some, slice?_of_unfinished? h]
  · rw [← Pattern.isSome_first?_iff, Element.isTagPattern_spacedTag.first?_eq, Context.attribute?,
      Option.isSome_map, Option.isSome_map]
  · intro context hcontext
    obtain ⟨found, hfound, rfl⟩ := Option.map_eq_some_iff.1 hcontext
    have hfirst := Element.isTagPattern_spacedTag.first?_eq t
    rw [hfound, Option.map_some] at hfirst
    obtain ⟨head, name, blanks, attributes, hgroups, rfl, hne, hblanks⟩ :=
      Element.exists_of_first?_spacedTag hfirst
    rw [hgroups] at hfirst
    have hrun := Token.isLongestRun_trailing Token.isAttributeChar
      (head ++ ['<'] ++ name ++ blanks ++ attributes)
    refine ⟨head, name, blanks, attributes, hfirst, rfl, rfl, Token.stop_trailing _ _, hrun, ?_⟩
    -- The last blank before the attributes ends every run of letters.
    refine suffix_of_all _ (fun c hc => ?_) hrun.forall_mem hrun.isSuffix
    rcases List.eq_nil_or_concat blanks with rfl | ⟨blanks, blank, rfl⟩
    · exact absurd rfl hne
    · rw [List.concat_eq_append, ← List.append_assoc, List.getLast?_concat] at hc
      obtain rfl := Option.mem_some_iff.1 hc
      exact asciiClass_isAttributeChar.eq_false_of_isBlank (by decide) (hblanks blank (by simp))

end Buffer

end MarkupPad
