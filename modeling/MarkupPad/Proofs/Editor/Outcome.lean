import MarkupPad.Proofs.Editor.Safety

/-!
# Outcomes tell what has changed

A host shows what it is told by the outcomes and looks at nothing else.  So whatever a key press,
a change or a click does, the editor that it leaves is the one its outcome describes.

    s.press? press = some r → r.1.Describes s r.2                  (describes_press)
    s.change? t selection = some r → r.1.Describes s r.2           (describes_change)
    s.click? index = some r → r.1.Describes s r.2                  (describes_click)
-/

namespace MarkupPad

open Text

/-- What an outcome says of the step from `s` to `s'`.  The edit that it carries is in the active
buffer now, with its selection, and only undo touches the other two buffers.  A mere move leaves
the document and all that is kept of it, and no change at all leaves everything that is shown. -/
structure Outcome.Describes (o : Outcome) (s s' : Editor) : Prop where
  facet_eq : s'.facet = s.facet
  shown : ∀ edit ∈ o.edit?, s'.text = edit.text ∧ s'.selection = edit.selection
  others : (∀ edit, o ≠ .applied .undo edit) →
    ∀ facet, facet ≠ s.facet → s'.document.get facet = s.document.get facet
  moved : o = .moved →
    s'.document = s.document ∧ s'.history = s.history ∧ s'.timer = s.timer
  unchanged : o = .unchanged →
    s'.document = s.document ∧ s'.selection = s.selection ∧ s'.menu = s.menu ∧ s'.now = s.now

namespace Editor

variable {s s' : Editor}

/-- An outcome describes the editor that its edit has been installed in, whatever else has
happened to history, timer and menu. -/
theorem describes_of_install {o : Outcome} {edit : Edit} (ho : o.edit? = some edit)
    (hfacet : s'.facet = s.facet) (hdocument : s'.document = (s.install edit).document)
    (hselection : s'.selection = edit.selection) : o.Describes s s' where
  facet_eq := hfacet
  shown := by
    intro shown hshown
    rw [ho] at hshown
    cases hshown
    have htext : s'.text = (s.install edit).text := by
      rw [text, hfacet, hdocument]
      rfl
    exact ⟨htext.trans (install_text s edit), hselection⟩
  others := by
    intro _ facet hne
    rw [hdocument]
    exact Document.get_set_of_ne hne
  moved := by
    rintro rfl
    cases ho
  unchanged := by
    rintro rfl
    cases ho

/-- A move describes the editor whose document, history and timer are still the same. -/
theorem describes_of_moved (hfacet : s'.facet = s.facet) (hdocument : s'.document = s.document)
    (hhistory : s'.history = s.history) (htimer : s'.timer = s.timer) :
    Outcome.moved.Describes s s' where
  facet_eq := hfacet
  shown := by
    rintro edit ⟨⟩
  others := by
    intro _ facet _
    rw [hdocument]
  moved := fun _ => ⟨hdocument, hhistory, htimer⟩
  unchanged := by
    rintro ⟨⟩

/-- No change describes the editor of which at most history and timer are others. -/
theorem describes_of_unchanged {history : History Document} {timer : Timer}
    (hs' : s' = { s with timer := timer, history := history }) :
    Outcome.unchanged.Describes s s' := by
  subst hs'
  refine ⟨rfl, ?_, fun _ _ _ => rfl, ?_, fun _ => ⟨rfl, rfl, rfl, rfl⟩⟩
  · rintro edit ⟨⟩
  · rintro ⟨⟩

/-! ## Undo, changes and presses -/

theorem describes_undo (s : Editor) : s.undo.1.Describes s s.undo.2 := by
  obtain ⟨timer, history, hflush⟩ := flush_frame s
  rcases undo_cases s with ⟨-, hundo⟩ | ⟨history, -, houtcome, hundo⟩
  · rw [hundo]
    exact describes_of_unchanged hflush
  · rw [houtcome, hundo, hflush]
    refine ⟨rfl, ?_, ?_, ?_, ?_⟩
    · rintro edit ⟨⟩
      exact ⟨rfl, rfl⟩
    · intro hne
      exact absurd rfl (hne _)
    · rintro ⟨⟩
    · rintro ⟨⟩

theorem describes_change {t : Text} {selection : Selection} {r : Outcome × Editor}
    (h : s.change? t selection = some r) : r.1.Describes s r.2 := by
  cases change?_effect h with
  | rename renamed menu => exact describes_of_install rfl rfl rfl rfl
  | edit menu => exact describes_of_install rfl rfl rfl rfl

/-- **What a press leaves is what its outcome describes.** -/
theorem describes_press {press : KeyPress} {r : Outcome × Editor} (h : s.press? press = some r) :
    r.1.Describes s r.2 := by
  cases press?_effect h with
  | undo => exact describes_undo s
  | unchanged => exact describes_of_unchanged rfl
  | menu menu => exact describes_of_moved rfl rfl rfl rfl
  | caret => exact describes_of_moved rfl rfl rfl rfl
  | act action => exact describes_of_install rfl rfl rfl rfl
  | change _ hr => exact describes_change hr

theorem describes_click {index : Nat} {r : Outcome × Editor} (h : s.click? index = some r) :
    r.1.Describes s r.2 := by
  rcases click?_cases s index with hclick | ⟨edit, hclick⟩
  · rw [hclick] at h
    cases h
    exact describes_of_unchanged rfl
  · rw [hclick] at h
    cases h
    exact describes_of_install rfl rfl rfl rfl

/-- **Outcomes describe the change of the editor.**  Every change and every click has an outcome,
and so has every key press while the selection fits the text; and whatever the state, what an
outcome says is so. -/
theorem outcomes_describe_the_change (s : Editor) :
    (∀ press r, s.press? press = some r → r.1.Describes s r.2) ∧
    (s.selection.Fits s.text → ∀ press, (s.press? press).isSome) ∧
    (∀ t selection, ∃ r, s.change? t selection = some r ∧ r.1.Describes s r.2) ∧
    ∀ index, ∃ r, s.click? index = some r ∧ r.1.Describes s r.2 := by
  refine ⟨fun press r => describes_press, press?_isSome, ?_, ?_⟩
  · intro t selection
    obtain ⟨r, hr, -⟩ := change?_spec s t selection
    exact ⟨r, hr, describes_change hr⟩
  · intro index
    obtain ⟨r, -, hr, -⟩ := click?_spec s index
    exact ⟨r, hr, describes_click hr⟩

end Editor

end MarkupPad
