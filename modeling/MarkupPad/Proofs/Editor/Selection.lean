import MarkupPad.Proofs.Editor.Safety

/-!
# Where the selection fits the text

The selection and the one that waits for rendering fit the active buffer after every
operation but one: a change that renames a tag.  Its selection is made to fit the text that
came in, and is shown in the text with the closing tag renamed as well.  The caret is before
that tag, but the end of the selection may be behind it, where the offsets have moved.

    s.SelectionFits → s.perform? operation = some s' →
      (s'.SelectionFits ↔ operation.KeepsSelection s)                   (perform?_fits_iff)
-/

namespace MarkupPad

open Text

namespace Editor

/-- The selection fits the active buffer, and so does one that waits for rendering. -/
def SelectionFits (s : Editor) : Prop :=
  s.selection.Fits s.text ∧ ∀ pending ∈ s.pendingSelection, pending.Fits s.text

end Editor

/-- An operation keeps the selection in the text, unless it is a change that renames a tag
and selects what does not fit the renamed text. -/
def Operation.KeepsSelection (s : Editor) : Operation → Prop
  | .change t selection =>
    ∀ renamed, s.renamed? t (Selection.clamp t selection.start selection.stop).start =
        some (some renamed) →
      (Selection.clamp t selection.start selection.stop).Fits renamed
  | _ => True

namespace Editor

/-! ## One operation -/

variable {s : Editor}

/-- Whoever leaves text and selection alone keeps them fitting. -/
theorem SelectionFits.congr {s' : Editor} (h : s.SelectionFits) (ht : s'.text = s.text)
    (hs : s'.selection = s.selection) (hp : s'.pendingSelection = s.pendingSelection) :
    s'.SelectionFits := by
  unfold SelectionFits
  rw [ht, hs, hp]
  exact h

/-- Whoever asks for the selection that is shown has only that to fit. -/
theorem selectionFits_of_pending {s' : Editor} (hp : s'.pendingSelection = some s'.selection)
    (h : s'.selection.Fits s'.text) : s'.SelectionFits := by
  refine ⟨h, fun pending hm => ?_⟩
  rw [hp] at hm
  cases hm
  exact h

theorem selectionFits_commit (h : s.SelectionFits) : s.commit.2.SelectionFits :=
  h.congr rfl rfl rfl

theorem selectionFits_flush (h : s.SelectionFits) : s.flush.2.SelectionFits := by
  unfold flush
  split
  · exact selectionFits_commit h
  · exact h

theorem selectionFits_tick (h : s.SelectionFits) (time : Nat) : (s.tick time).2.SelectionFits := by
  have h' : { s with now := max s.now time : Editor }.SelectionFits := h.congr rfl rfl rfl
  unfold tick
  simp only
  split
  · exact selectionFits_commit h'
  · exact h'

theorem selectionFits_undo (h : s.SelectionFits) : s.undo.2.SelectionFits := by
  rcases undo_cases s with ⟨-, hundo⟩ | ⟨history, -, -, hundo⟩
  · rw [hundo]
    exact selectionFits_flush h
  · rw [hundo]
    refine selectionFits_of_pending rfl ?_
    exact Selection.collapsed_fits_iff.2 (isBoundary_size _)

theorem selectionFits_perform (action : Action) {edit : Edit} (h : edit.Fits) :
    (s.perform action edit).2.SelectionFits := by
  refine selectionFits_of_pending rfl ?_
  rw [perform_snd_text]
  exact h

/-- **A change keeps the selection in the text just when the selection fits what the change
leaves.** -/
theorem selectionFits_change_iff {t : Text} {selection : Selection} {r : Outcome × Editor}
    (h : s.change? t selection = some r) :
    r.2.SelectionFits ↔ (Operation.change t selection).KeepsSelection s := by
  cases change?_effect h with
  | rename renamed menu hr =>
    have htext : (s.install ⟨renamed, .clamp t selection.start selection.stop⟩).text = renamed :=
      install_text s _
    constructor
    · rintro ⟨hfits, -⟩ renamed' hr'
      rw [hr] at hr'
      cases hr'
      rw [← htext]
      exact hfits
    · intro hkeeps
      refine selectionFits_of_pending rfl ?_
      show Selection.Fits _ (s.install _).text
      rw [htext]
      exact hkeeps renamed hr
  | edit menu hr =>
    constructor
    · intro _ renamed hr'
      rw [hr] at hr'
      cases hr'
    · intro _
      refine selectionFits_of_pending rfl ?_
      show Selection.Fits _ (s.install _).text
      rw [install_text]
      exact Selection.clamp_fits _ _ _

/-- A change that leaves a caret keeps it in the text: the caret stands before the closing
tag. -/
theorem keepsSelection_of_isCollapsed (s : Editor) (t : Text) {selection : Selection}
    (hc : selection.isCollapsed) : (Operation.change t selection).KeepsSelection s := by
  intro renamed hr
  have heq : selection.start = selection.stop := of_decide_eq_true hc
  have hclamp : Selection.clamp t selection.start selection.stop =
      .collapsed (Selection.clamp t selection.start selection.stop).start := by
    rw [← heq, Selection.clamp, if_pos (Nat.le_refl _)]
    rfl
  rw [hclamp]
  exact Selection.collapsed_fits_iff.2 (isBoundary_renamed hr)

theorem selectionFits_press {mayUndo : Prop} {r : Outcome × Editor} (h : s.SelectionFits)
    (he : PressEffect s mayUndo r) : r.2.SelectionFits := by
  cases he with
  | undo => exact selectionFits_undo h
  | unchanged => exact h
  | menu menu => exact h.congr rfl rfl rfl
  | caret hcaret => exact ⟨Selection.collapsed_fits_iff.2 (hcaret h.1), h.2⟩
  | act action hedit => exact selectionFits_perform action (hedit h.1)
  | change hc hr => exact (selectionFits_change_iff hr).2 (keepsSelection_of_isCollapsed s _ hc)

theorem selectionFits_withTemplate (s : Editor) (template : Template) :
    (s.withTemplate template).SelectionFits :=
  selectionFits_of_pending rfl (Selection.clamp_fits _ _ _)

/-- **One operation keeps the selection in the text just when it is no change that selects
beyond the renamed text.** -/
theorem perform?_fits_iff {s' : Editor} {operation : Operation} (h : s.SelectionFits)
    (hp : s.perform? operation = some s') : s'.SelectionFits ↔ operation.KeepsSelection s := by
  have keeps (h' : s'.SelectionFits) : s'.SelectionFits ↔ True := ⟨fun _ => trivial, fun _ => h'⟩
  cases operation with
  | press press =>
    obtain ⟨r, hr, rfl⟩ := Option.map_eq_some_iff.1 hp
    exact keeps (selectionFits_press h (press?_effect hr))
  | change t selection =>
    obtain ⟨r, hr, rfl⟩ := Option.map_eq_some_iff.1 hp
    exact selectionFits_change_iff hr
  | switchTo facet =>
    cases hp
    exact keeps (selectionFits_of_pending rfl (Selection.collapsed_fits_iff.2 (isBoundary_size _)))
  | tick time =>
    cases hp
    exact keeps (selectionFits_tick h time)
  | advance delay =>
    cases hp
    exact keeps (selectionFits_tick h _)
  | hover index =>
    cases hp
    refine keeps ?_
    unfold hover?
    cases s.menu.hover? index with
    | none => exact h
    | some menu => exact h.congr rfl rfl rfl
  | click index =>
    obtain ⟨r, hr, rfl⟩ := Option.map_eq_some_iff.1 hp
    obtain ⟨r', menu, hr', he⟩ := click?_spec s index
    rw [hr] at hr'
    cases hr'
    have h' : { s with menu := menu : Editor }.SelectionFits := h.congr rfl rfl rfl
    exact keeps (selectionFits_press h' he)
  | select start stop =>
    rw [perform?_select] at hp
    cases hp
    exact keeps ⟨Selection.clamp_fits _ _ _, h.2⟩
  | inject id =>
    rw [perform?_inject] at hp
    cases hp
    refine keeps ?_
    cases Template.find? id with
    | none => exact h
    | some template => exact selectionFits_withTemplate s template
  | load document =>
    cases hp
    refine keeps ⟨Selection.collapsed_fits_iff.2 (isBoundary_size _), ?_⟩
    rintro pending ⟨⟩
  | finishRender =>
    rw [perform?_finishRender] at hp
    cases hp
    refine keeps ?_
    unfold withPending
    cases s.pendingSelection with
    | none => exact h
    | some pending =>
      refine ⟨Selection.clamp_fits _ _ _, ?_⟩
      rintro pending ⟨⟩
  | flush =>
    cases hp
    exact keeps (selectionFits_flush h)
  | setAutoClose on =>
    cases hp
    exact keeps (h.congr rfl rfl rfl)
  | setPredictions on =>
    cases hp
    exact keeps (h.congr rfl rfl rfl)

theorem selectionFits_new (config : Config) : (new config).SelectionFits := by
  refine ⟨Selection.collapsed_fits_iff.2 (isBoundary_zero _), ?_⟩
  rintro pending ⟨⟩

/-! ## Runs -/

theorem run?_concat (s : Editor) (operations : List Operation) (operation : Operation) :
    s.run? (operations ++ [operation]) = (s.run? operations).bind (·.perform? operation) := by
  rw [run?, List.foldlM_append]
  show (operations.foldlM perform? s).bind _ = _
  congr 1
  funext s'
  exact bind_pure _

/-- **The selection fits all along a run just when no change on the way renames a tag and
selects beyond the renamed text.**  Such a run does not fail anywhere. -/
theorem run?_fits_iff (config : Config) (operations : List Operation) :
    (∀ before, before <+: operations →
        ∃ s, (new config).run? before = some s ∧ s.SelectionFits) ↔
      ∀ before operation s, before ++ [operation] <+: operations →
        (new config).run? before = some s → operation.KeepsSelection s := by
  constructor
  · intro h before operation s hpre hs
    obtain ⟨s1, hs1, hfits⟩ := h before ((List.prefix_append _ _).trans hpre)
    obtain ⟨s2, hs2, hfits'⟩ := h (before ++ [operation]) hpre
    rw [hs] at hs1
    cases hs1
    rw [run?_concat, hs, Option.bind_some] at hs2
    exact (perform?_fits_iff hfits hs2).1 hfits'
  · intro h before
    induction before using List.reverseRecOn with
    | nil => exact fun _ => ⟨new config, rfl, selectionFits_new config⟩
    | append_singleton before operation ih =>
      intro hpre
      obtain ⟨s, hs, hfits⟩ := ih ((List.prefix_append _ _).trans hpre)
      obtain ⟨s', hs'⟩ := Option.isSome_iff_exists.1 (perform?_isSome hfits.1 operation)
      refine ⟨s', ?_, (perform?_fits_iff hfits hs').2 (h before operation s hpre hs)⟩
      rw [run?_concat, hs, Option.bind_some, hs']

/-- A letter is taken from the name of a tag while all that follows is selected: the closing
tag loses a letter, too, and the selection reaches past the end of the text. -/
theorem not_all_reachable_selectionFits : ¬ ∀ s, Reachable s → s.SelectionFits := by
  intro hall
  have hload : Reachable ((new .default).load ⟨"<div>x</div>".toList, [], []⟩) :=
    .perform (.load _) (.new .default) rfl
  obtain ⟨r, hr, -⟩ :=
    change?_spec ((new .default).load ⟨"<div>x</div>".toList, [], []⟩) "<di>x</div>".toList ⟨3, 11⟩
  have hfits := hall r.2
    (.perform (.change _ _) hload (Option.map_eq_some_iff.2 ⟨r, hr, rfl⟩))
  have hrename : Element.rename? "<div>x</div>".toList "<di>x</div>".toList 3 =
      some "<di>x</di>".toList := by decide
  have hshown := (selectionFits_change_iff hr).1 hfits "<di>x</di>".toList
    (by rw [renamed?_eq]; exact congrArg some hrename)
  exact absurd hshown (by decide)

end Editor

end MarkupPad
