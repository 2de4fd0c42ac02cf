import MarkupPad.Proofs.Editor.Effect
import MarkupPad.Proofs.Element.Tree

/-!
# Renaming while typing

With the markup of a tree in the buffer, a change of the name in one opening tag renames that
element of the tree.  So does every key press that types in the name, and a burst of them
leaves the tree with the name that has been typed.

    s.InName p tag children l r → typed? l press = some l' →
      the press renames, and leads to InName p (tag.rename (l' ++ r)) children l' r
-/

namespace MarkupPad

open Text Element

/-! ## Typing in a name -/

/-- The part of a name before the caret after a key press in it; `none` for the presses that do
anything else. -/
def typed? (l : Text) (press : KeyPress) : Option Text :=
  match press.key with
  | .char c => if isNameChar c ∧ !press.isChord then some (l ++ [c]) else none
  | .backspace => if l = [] then none else some l.dropLast
  | _ => none

/-- What a press in a name can be. -/
theorem typed?_eq_some {l l' : Text} {press : KeyPress} (h : typed? l press = some l') :
    (∃ c, press.key = .char c ∧ isNameChar c ∧ press.isChord = false ∧ l' = l ++ [c]) ∨
      ∃ c, press.key = .backspace ∧ l = l' ++ [c] := by
  obtain ⟨key, modifiers⟩ := press
  cases key with
  | char c =>
    simp only [typed?] at h
    split at h
    · next hc =>
      cases h
      exact .inl ⟨c, rfl, hc.1, by simpa using hc.2, rfl⟩
    · cases h
  | backspace =>
    simp only [typed?] at h
    split at h
    · cases h
    · next hl =>
      cases h
      exact .inr ⟨l.getLast hl, rfl, (List.dropLast_concat_getLast hl).symm⟩
  | _ => cases h

namespace Editor

/-- Key presses one after the other: the outcome of each, and the editor after them. -/
def pressAll? (s : Editor) : List KeyPress → Option (List Outcome × Editor)
  | [] => some ([], s)
  | press :: presses => do
    let (outcome, s) ← s.press? press
    let (outcomes, s) ← s.pressAll? presses
    return (outcome :: outcomes, s)

/-- The buffer holds the markup of a tree, and the caret stands between the two parts of the
name in an opening tag. -/
structure InName (s : Editor) (p : Site) (tag : Tag) (children : Forest) (l r : Text) : Prop where
  facet : s.facet = .markup
  text : s.text = (p.fill tag children).render
  name : tag.opening = l ++ r
  caret : s.selection = .collapsed (p.caret l)

variable {s : Editor} {p : Site} {tag : Tag} {children : Forest} {l r : Text}

/-! ## One change -/

/-- **A change of the name in an opening tag renames the element in its tree.** -/
theorem change?_retyped (hfacet : s.facet = .markup) (htext : s.text = (p.fill tag children).render)
    (hname : ∀ c ∈ l ++ r, isNameChar c) (hne : tag.opening.length ≠ (l ++ r).length) :
    ∃ s', s.change? (p.retyped tag children (l ++ r)) (.collapsed (p.caret l)) =
        some (.applied .rename ⟨(p.fill (tag.rename (l ++ r) hname) children).render,
          .collapsed (p.caret l)⟩, s') ∧
      s'.InName p (tag.rename (l ++ r) hname) children l r := by
  have hclamp : Selection.clamp (p.retyped tag children (l ++ r)) (p.caret l) (p.caret l) =
      .collapsed (p.caret l) := by
    rw [Site.retyped_append]
    exact Selection.clamp_of_fits (Selection.collapsed_fits_iff.2 (isBoundary_append _ _))
  have hrenamed : s.renamed? (p.retyped tag children (l ++ r)) (p.caret l) =
      some (some (p.fill (tag.rename (l ++ r) hname) children).render) := by
    rw [renamed?_eq, if_pos hfacet, htext, rename?_retyped p tag children hname hne]
  obtain ⟨out, hout, heffect⟩ := change?_spec s (p.retyped tag children (l ++ r))
    (.collapsed (p.caret l))
  cases heffect with
  | rename renamed menu hr =>
    simp only [Selection.collapsed] at hr hout hclamp ⊢
    rw [hclamp] at hr hout
    rw [hrenamed] at hr
    cases hr
    refine ⟨_, hout, hfacet, install_text s _, rfl, rfl⟩
  | edit menu hr =>
    simp only [Selection.collapsed] at hr hclamp
    rw [hclamp, hrenamed] at hr
    cases hr

/-! ## Key presses -/

/-- What a press in a name makes of the text. -/
theorem edit?_of_typed (h : s.InName p tag children l r) {press : KeyPress} {l' : Text}
    (ht : typed? l press = some l') :
    s.edit? press = some (some ⟨p.retyped tag children (l' ++ r), .collapsed (p.caret l')⟩) := by
  have htext : s.text = p.retyped tag children (l ++ r) := by
    rw [h.text, Site.render_fill, h.name]
  rw [Site.retyped_append] at htext ⊢
  rcases typed?_eq_some ht with ⟨c, hk, -, hchord, rfl⟩ | ⟨c, hk, rfl⟩
  · have hreplace := Edit.replace?_append (p.before ++ '<' :: l) []
      (r ++ (tag.attributes ++ '>' :: (children.render ++ tag.closed ++ p.after))) [c]
    rw [List.append_nil] at hreplace
    rw [edit?, hk, hchord, htext, h.caret]
    simp only [Bool.false_eq_true, if_false, Selection.collapsed, Site.caret, hreplace]
    simp [Edit.collapsed, Selection.collapsed, Nat.add_assoc]
  · have hbackspace := Edit.backspace?_append (p.before ++ '<' :: l') c
      (r ++ (tag.attributes ++ '>' :: (children.render ++ tag.closed ++ p.after)))
    rw [edit?, hk, Buffer.backspace?_eq, htext, h.caret]
    simpa [Edit.collapsed, Site.caret] using hbackspace

/-- A press that types in a name is a plain edit: no shortcut, nothing for the menu, no trigger
and no tag that ends. -/
theorem press?_of_typed {press : KeyPress} {l l' : Text} (ht : typed? l press = some l')
    {edit : Edit} (he : s.edit? press = some (some edit)) :
    s.press? press = s.change? edit.text edit.selection := by
  obtain ⟨hundo, hduplicate, hmenu, htrigger, hclosed, hplain⟩ :
      press.isUndo = false ∧ press.isDuplicate = false ∧ s.pressInMenu? press.key = some none ∧
        s.trigger? press.key = some none ∧ s.autoClosed? press.key = some none ∧
          s.pressPlain? press = s.change? edit.text edit.selection := by
    rcases typed?_eq_some ht with ⟨c, hk, hc, hchord, -⟩ | ⟨c, hk, -⟩
    · have hne : c ≠ '>' := by
        rintro rfl
        revert hc
        decide
      simp only [KeyPress.isChord, Bool.or_eq_false_iff] at hchord
      refine ⟨?_, ?_, ?_, ?_, ?_, ?_⟩
      · simp [KeyPress.isUndo, hchord]
      · simp [KeyPress.isDuplicate, hk]
      · rw [hk]
        rfl
      · simp [trigger?, hk]
      · simp [autoClosed?, hk, hne]
      · simp [pressPlain?, hk, he]
    · refine ⟨?_, ?_, ?_, ?_, ?_, ?_⟩
      · simp [KeyPress.isUndo, hk]
      · simp [KeyPress.isDuplicate, hk]
      · rw [hk]
        rfl
      · simp [trigger?, hk]
      · simp [autoClosed?, hk]
      · simp [pressPlain?, hk, he]
  rw [press?, hundo, hduplicate, hmenu, pressInText?, htrigger]
  simp only [Bool.false_eq_true, if_false, Option.bind_eq_bind, Option.bind_some, ite_self, hclosed,
    hplain]

/-- **A key press in the name of an opening tag renames the element in its tree.** -/
theorem press?_of_inName (h : s.InName p tag children l r) {press : KeyPress} {l' : Text}
    (ht : typed? l press = some l') :
    ∃ hname edit s', s.press? press = some (.applied .rename edit, s') ∧
      s'.InName p (tag.rename (l' ++ r) hname) children l' r := by
  have hold : ∀ c ∈ l ++ r, isNameChar c := by
    rw [← h.name]
    exact tag.isName
  have hnew : (∀ c ∈ l' ++ r, isNameChar c) ∧ tag.opening.length ≠ (l' ++ r).length := by
    rw [h.name]
    rcases typed?_eq_some ht with ⟨c, -, hc, -, rfl⟩ | ⟨c, -, rfl⟩
    · refine ⟨?_, by simp⟩
      simp only [List.forall_mem_append, List.forall_mem_singleton] at hold ⊢
      exact ⟨⟨hold.1, hc⟩, hold.2⟩
    · refine ⟨?_, by simp⟩
      simp only [List.forall_mem_append, List.forall_mem_singleton] at hold ⊢
      exact ⟨hold.1.1, hold.2⟩
  obtain ⟨s', hs', hin⟩ := change?_retyped h.facet h.text hnew.1 hnew.2
  have hpress := press?_of_typed ht (edit?_of_typed h ht)
  exact ⟨hnew.1, _, s', hpress.trans hs', hin⟩

/-- **A burst of key presses in the name of an opening tag renames the element in its tree**,
every press of it. -/
theorem pressAll?_of_inName (h : s.InName p tag children l r) {presses : List KeyPress} {l' : Text}
    (ht : presses.foldlM typed? l = some l') :
    ∃ outcomes s' tag', s.pressAll? presses = some (outcomes, s') ∧
      (∀ o ∈ outcomes, ∃ edit, o = .applied .rename edit) ∧
      s'.InName p tag' children l' r ∧
      (presses = [] ∧ tag' = tag ∨ ∃ hname, tag' = tag.rename (l' ++ r) hname) := by
  induction presses generalizing s tag l with
  | nil =>
    cases ht
    exact ⟨[], s, tag, rfl, by simp, h, .inl ⟨rfl, rfl⟩⟩
  | cons press presses ih =>
    rw [List.foldlM_cons, Option.bind_eq_bind, Option.bind_eq_some_iff] at ht
    obtain ⟨l₁, ht₁, ht⟩ := ht
    obtain ⟨hname, edit, s₁, hs₁, hin₁⟩ := press?_of_inName h ht₁
    obtain ⟨outcomes, s', tag', hs', hall, hin, htag⟩ := ih hin₁ ht
    refine ⟨.applied .rename edit :: outcomes, s', tag', ?_, ?_, hin, .inr ?_⟩
    · simp only [pressAll?, hs₁, hs', Option.bind_eq_bind, Option.bind_some]
      rfl
    · intro o ho
      rcases List.mem_cons.1 ho with rfl | ho
      · exact ⟨edit, rfl⟩
      · exact hall o ho
    · rcases htag with ⟨rfl, rfl⟩ | ⟨hname', rfl⟩
      · cases ht
        exact ⟨hname, rfl⟩
      · exact ⟨hname', rfl⟩

/-- **Renaming is renaming in the tree.**  With the markup of a tree in the buffer, a change to
the text with another name in one opening tag, with the caret in that name, leaves the markup
of the tree with both tags renamed, unless the names are equally long.  And so does any burst of
letters and Backspaces typed in the name of an opening tag. -/
theorem renames_the_tree (s : Editor) (p : Site) (tag : Tag) (children : Forest)
    (hfacet : s.facet = .markup) (htext : s.text = (p.fill tag children).render) :
    (∀ (l r : Text) (hname : ∀ c ∈ l ++ r, isNameChar c),
      tag.opening.length ≠ (l ++ r).length →
        ∃ s', s.change? (p.retyped tag children (l ++ r)) (.collapsed (p.caret l)) =
            some (.applied .rename ⟨(p.fill (tag.rename (l ++ r) hname) children).render,
              .collapsed (p.caret l)⟩, s') ∧
          s'.text = (p.fill (tag.rename (l ++ r) hname) children).render) ∧
    (∀ (l r l' : Text) (presses : List KeyPress),
      tag.opening = l ++ r → s.selection = .collapsed (p.caret l) → presses ≠ [] →
        presses.foldlM typed? l = some l' →
          ∃ hname outcomes s', s.pressAll? presses = some (outcomes, s') ∧
            (∀ o ∈ outcomes, ∃ edit, o = .applied .rename edit) ∧
            s'.text = (p.fill (tag.rename (l' ++ r) hname) children).render ∧
            s'.selection = .collapsed (p.caret l')) := by
  constructor
  · intro l r hname hne
    obtain ⟨s', hs', hin⟩ := change?_retyped hfacet htext hname hne
    exact ⟨s', hs', hin.text⟩
  · intro l r l' presses hopening hcaret hpresses ht
    obtain ⟨outcomes, s', tag', hs', hall, hin, htag⟩ :=
      pressAll?_of_inName ⟨hfacet, htext, hopening, hcaret⟩ ht
    rcases htag with ⟨rfl, -⟩ | ⟨hname, rfl⟩
    · exact absurd rfl hpresses
    · exact ⟨hname, outcomes, s', hs', hall, hin.text, hin.caret⟩

/-- The inner of two elements of one name, spelled in two ways, becomes a `span` by a change and
a `p` by typing. -/
theorem renames_the_tree_at_nested :
    let s := ((new .default).load ⟨"<div>é<DIV>x</div></div>".toList, [], []⟩).select 11 11
    (∃ s', s.change? "<div>é<span>x</div></div>".toList (.collapsed 9) =
        some (.applied .rename ⟨"<div>é<span>x</span></div>".toList, .collapsed 9⟩, s') ∧
      s'.text = "<div>é<span>x</span></div>".toList) ∧
    ∃ outcomes s', s.pressAll? (List.replicate 3 (.plain .backspace) ++ [.plain (.char 'p')]) =
        some (outcomes, s') ∧
      (∀ o ∈ outcomes, ∃ edit, o = .applied .rename edit) ∧
      s'.text = "<div>é<p>x</p></div>".toList ∧ s'.selection = .collapsed 9 := by
  intro s
  let outer : Tag :=
    ⟨"div".toList, "div".toList, [], List.all_eq_true.1 rfl, rfl, by simp, by simp⟩
  let inner : Tag :=
    ⟨"DIV".toList, "div".toList, [], List.all_eq_true.1 rfl, rfl, by simp, by simp⟩
  let site : Site := .inside outer (.afterText ['é'] (by decide) (.here .nil)) .nil
  have h := renames_the_tree s site inner (.text ['x'] (by decide) .nil) rfl (by decide)
  obtain ⟨hname, outcomes, s', hs', hall, htext, hcaret⟩ := h.2 "DIV".toList [] "p".toList
    (List.replicate 3 (.plain .backspace) ++ [.plain (.char 'p')]) (by decide) (by decide)
    (by decide) (by decide)
  exact ⟨h.1 "s".toList "pan".toList (List.all_eq_true.1 rfl) (by decide),
    outcomes, s', hs', hall, htext, hcaret⟩

end Editor

end MarkupPad
