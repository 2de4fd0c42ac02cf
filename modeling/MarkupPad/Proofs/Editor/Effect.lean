import MarkupPad.Editor.Operations
import MarkupPad.Proofs.Buffer.Boundary
import MarkupPad.Proofs.Buffer.Completion
import MarkupPad.Proofs.Buffer.Line
import MarkupPad.Proofs.Buffer.Renaming
import MarkupPad.Proofs.Editor.Edit
import MarkupPad.Proofs.Element.Renaming
import MarkupPad.Proofs.Suggestion.Highlight

/-!
# What a key press and a change do

A key press does one of six things, and a change one of two.  Of the other operations, all but
four leave the document, its history and the timer alone.  All that is proved about runs of an
editor rests on these case distinctions.

    s.undo.2 = s.flush.2, or s.undo.2 = s.flush.2.showing history       (undo_cases)
    s.change? t selection = some r → ChangeEffect s t selection r       (change?_effect)
    s.press? press = some r → PressEffect s press.isUndo r              (press?_effect)
    s.perform? operation = some s' → OperationEffect s s'               (perform?_effect)
-/

namespace MarkupPad

open Text

namespace History

variable {α : Type} [DecidableEq α]

@[simp] theorem commit_current (h : History α) (entry : α) : (h.commit entry).2.current = entry := by
  unfold commit
  split
  · next he => exact he
  · rfl

end History

/-- What the keys of an open menu do to it: the highlight moves on or back, or the menu closes. -/
inductive Menu.KeyEffect (m : Menu) : Menu → Prop where
  | next : m.KeyEffect m.next
  | prev {m' : Menu} (h : m.prev? = some m') : m.KeyEffect m'
  | close : m.KeyEffect .empty

namespace Editor

/-! ## Installing and committing -/

variable (s : Editor)

@[simp] theorem install_text (edit : Edit) : (s.install edit).text = edit.text :=
  Document.get_set_self _ _ _

theorem commit_snd :
    s.commit.2 = { s with timer := .idle, history := (s.history.commit s.document).2 } :=
  rfl

/-- A flush leaves everything but history and timer alone. -/
theorem flush_frame : ∃ timer history,
    s.flush.2 = { s with timer := timer, history := history } := by
  unfold flush
  split
  · exact ⟨_, _, rfl⟩
  · exact ⟨_, _, rfl⟩

/-- A tick moves the clock, and leaves everything else but history and timer alone. -/
theorem tick_frame (time : Nat) : ∃ timer history,
    (s.tick time).2 =
      { s with now := max s.now time, timer := timer, history := history } := by
  unfold tick
  simp only
  split
  · exact ⟨_, _, rfl⟩
  · exact ⟨_, _, rfl⟩

/-- The editor that shows the current entry of a history, with a caret at its end. -/
def showing (history : History Document) : Editor :=
  let caret := Selection.collapsed (size (history.current.get s.facet))
  { s with
    document := history.current
    history := history
    menu := .empty
    selection := caret
    pendingSelection := some caret }

/-- Undo flushes, and then shows the entry before the current one if there is one. -/
theorem undo_cases :
    (s.flush.2.history.undo? = none ∧ s.undo = (.unchanged, s.flush.2)) ∨
    ∃ history, s.flush.2.history.undo? = some history ∧
      s.undo.1 = .applied .undo
        (.collapsed (s.flush.2.showing history).text (size (s.flush.2.showing history).text)) ∧
      s.undo.2 = s.flush.2.showing history := by
  unfold undo
  simp only
  cases s.flush.2.history.undo? with
  | none => exact .inl ⟨rfl, rfl⟩
  | some history => exact .inr ⟨history, rfl, rfl, rfl⟩

@[simp] theorem perform_snd_text (action : Action) (edit : Edit) :
    (s.perform action edit).2.text = edit.text :=
  Document.get_set_self _ _ _

/-! ## Changes -/

/-- The two things that a change does: the tag at the caret is renamed and the document
committed, or the text goes in and a commit is due later. -/
inductive ChangeEffect (t : Text) (selection : Selection) : Outcome × Editor → Prop where
  | rename (renamed : Text) (menu : Menu)
      (h : s.renamed? t (Selection.clamp t selection.start selection.stop).start =
        some (some renamed)) :
      ChangeEffect t selection
        (.applied .rename ⟨renamed, .clamp t selection.start selection.stop⟩,
          { (s.install ⟨renamed, .clamp t selection.start selection.stop⟩).commit.2 with
            menu := menu })
  | edit (menu : Menu)
      (h : s.renamed? t (Selection.clamp t selection.start selection.stop).start = some none) :
      ChangeEffect t selection
        (.edited ⟨t, .clamp t selection.start selection.stop⟩,
          { s.install ⟨t, .clamp t selection.start selection.stop⟩ with
            timer := .schedule s.now s.config.commitDelay
            menu := menu })

variable {s}

theorem refresh?_eq (h : IsBoundary s.text s.selection.start) :
    ∃ menu, s.refresh? = some { s with menu := menu } := by
  obtain ⟨before, hb⟩ := Option.isSome_iff_exists.1 (isBoundary_iff_before?.1 h)
  unfold refresh?
  split
  · refine ⟨.ofList (Suggestion.offer before s.config.maxSuggestions), ?_⟩
    simp only [hb, Buffer.offer?_eq, Option.bind_eq_bind, Option.bind_some]
    rfl
  · exact ⟨_, rfl⟩

theorem renamed?_eq (t : Text) (caret : Nat) :
    s.renamed? t caret =
      some (if s.facet = .markup then Element.rename? s.text t caret else none) := by
  unfold renamed?
  split
  · exact Buffer.rename?_eq _ _ _
  · rfl

/-- The caret of a change stands at a boundary of the renamed text, too. -/
theorem isBoundary_renamed {t renamed : Text} {caret : Nat}
    (h : s.renamed? t caret = some (some renamed)) : IsBoundary renamed caret := by
  rw [renamed?_eq, Option.some.injEq] at h
  split at h
  · obtain ⟨before, hb, hpre⟩ := Element.rename?_before h
    obtain ⟨-, -, rfl⟩ := before?_eq_some_iff.1 hb
    exact isBoundary_of_isPrefix hpre
  · cases h

/-- **A change always goes through, and does one of two things.** -/
theorem change?_spec (s : Editor) (t : Text) (selection : Selection) :
    ∃ r, s.change? t selection = some r ∧ ChangeEffect s t selection r := by
  have hstart := (Selection.clamp_fits t selection.start selection.stop).2.1
  cases hr : s.renamed? t (Selection.clamp t selection.start selection.stop).start with
  | none =>
    rw [renamed?_eq] at hr
    cases hr
  | some renamed =>
    cases renamed with
    | some renamed =>
      have hb : IsBoundary
          (s.install ⟨renamed, .clamp t selection.start selection.stop⟩).commit.2.text
          (Selection.clamp t selection.start selection.stop).start := by
        rw [commit_snd]
        show IsBoundary (s.install _).text _
        rw [install_text]
        exact isBoundary_renamed hr
      obtain ⟨menu, hm⟩ := refresh?_eq hb
      refine ⟨_, ?_, .rename renamed menu hr⟩
      simp only [change?, Buffer.clamp?_eq, hr, hm, Option.bind_eq_bind, Option.bind_some]
      rfl
    | none =>
      have hb : IsBoundary { s.install ⟨t, .clamp t selection.start selection.stop⟩ with
          timer := .schedule s.now s.config.commitDelay : Editor }.text
          (Selection.clamp t selection.start selection.stop).start := by
        show IsBoundary (s.install _).text _
        rw [install_text]
        exact hstart
      obtain ⟨menu, hm⟩ := refresh?_eq hb
      refine ⟨_, ?_, .edit menu hr⟩
      simp only [change?, Buffer.clamp?_eq, hr, hm, Option.bind_eq_bind, Option.bind_some]
      rfl

theorem change?_effect {t : Text} {selection : Selection} {r : Outcome × Editor}
    (h : s.change? t selection = some r) : ChangeEffect s t selection r := by
  obtain ⟨r', hr', he⟩ := change?_spec s t selection
  rw [h] at hr'
  cases hr'
  exact he

/-! ## Key presses -/

variable (s) in
/-- The six things that a key press does.  Only some presses may undo. -/
inductive PressEffect (mayUndo : Prop) : Outcome × Editor → Prop where
  | undo (h : mayUndo) : PressEffect mayUndo s.undo
  | unchanged : PressEffect mayUndo (.unchanged, s)
  | menu (menu : Menu) (h : s.menu.KeyEffect menu) :
      PressEffect mayUndo (.moved, { s with menu := menu })
  | caret {offset : Nat} (h : s.selection.Fits s.text → IsBoundary s.text offset) :
      PressEffect mayUndo (.moved, { s with selection := .collapsed offset })
  | act (action : Action) {edit : Edit} (h : s.selection.Fits s.text → edit.Fits) :
      PressEffect mayUndo (s.perform action edit)
  | change {edit : Edit} {r : Outcome × Editor} (hc : edit.selection.isCollapsed)
      (hr : s.change? edit.text edit.selection = some r) : PressEffect mayUndo r

variable {mayUndo : Prop}

theorem accept?_spec (s : Editor) (mayUndo : Prop) :
    ∃ r, s.accept? = some r ∧ PressEffect s mayUndo r := by
  unfold accept?
  cases s.menu.highlighted? with
  | none => exact ⟨_, rfl, .unchanged⟩
  | some suggestion =>
    simp only [Buffer.accept?_eq, Option.bind_eq_bind, Option.bind_some]
    refine ⟨_, rfl, .act .suggestion fun h => ?_⟩
    exact Selection.collapsed_fits_iff.2 (Suggestion.accept_fits suggestion h.2.1)

theorem prev?_spec (m : Menu) : ∃ m', m.prev? = some m' := by
  unfold Menu.prev?
  split
  · next h =>
    have hpos : 1 ≤ m.index + m.items.length := by
      have := Menu.length_pos_of_isActive h
      omega
    exact ⟨_, by rw [Buffer.minus?, if_pos hpos]; rfl⟩
  · exact ⟨_, rfl⟩

/-- What the open menu takes is done, and does nothing that other keys do not. -/
theorem pressInMenu?_spec (s : Editor) (key : Key) (mayUndo : Prop) :
    ∃ r, s.pressInMenu? key = some r ∧ ∀ r' ∈ r, PressEffect s mayUndo r' := by
  obtain ⟨r, hr, he⟩ := accept?_spec s mayUndo
  have hsome : ∀ r' ∈ some r, PressEffect s mayUndo r' := by
    intro r' h
    cases h
    exact he
  cases key with
  | down => exact ⟨_, rfl, by rintro r' ⟨⟩; exact .menu _ .next⟩
  | up =>
    obtain ⟨m, hm⟩ := prev?_spec s.menu
    exact ⟨_, by rw [pressInMenu?, hm]; rfl, by rintro r' ⟨⟩; exact .menu m (.prev hm)⟩
  | enter => exact ⟨some r, by rw [pressInMenu?, hr]; rfl, hsome⟩
  | tab => exact ⟨some r, by rw [pressInMenu?, hr]; rfl, hsome⟩
  | escape => exact ⟨_, rfl, by rintro r' ⟨⟩; exact .menu .empty .close⟩
  | _ => exact ⟨none, rfl, by simp⟩

theorem replace?_isCollapsed {t insertion : Text} {selection : Selection} {edit : Edit}
    (h : Edit.replace? t selection insertion = some edit) : edit.selection.isCollapsed := by
  simp only [Edit.replace?, Option.bind_eq_bind, Option.bind_eq_some_iff] at h
  obtain ⟨head, -, tail, -, h⟩ := h
  cases h
  exact decide_eq_true rfl

/-- A plain editing key leaves a caret. -/
theorem edit?_isCollapsed {press : KeyPress} {edit : Edit} (h : s.edit? press = some (some edit)) :
    edit.selection.isCollapsed := by
  have hreplace {selection : Selection} {insertion : Text}
      (h : some <$> Edit.replace? s.text selection insertion = some (some edit)) :
      edit.selection.isCollapsed := by
    simp only [Option.map_eq_map, Option.map_eq_some_iff, Option.some.injEq] at h
    obtain ⟨e, he, rfl⟩ := h
    exact replace?_isCollapsed he
  obtain ⟨key, modifiers⟩ := press
  cases key with
  | char c =>
    simp only [edit?] at h
    split at h
    · cases h
    · exact hreplace h
  | enter => exact hreplace h
  | backspace =>
    simp only [edit?, Buffer.backspace?_eq, Edit.backspace?] at h
    split at h
    · exact hreplace h
    · split at h
      · cases h
      · simp only [Option.bind_eq_bind, Option.bind_eq_some_iff] at h
        obtain ⟨before, -, h⟩ := h
        exact hreplace h
  | delete =>
    simp only [edit?, Buffer.delete?_eq, Edit.delete?] at h
    split at h
    · exact hreplace h
    · split at h
      · cases h
      · simp only [Option.bind_eq_bind, Option.bind_eq_some_iff] at h
        obtain ⟨after, -, h⟩ := h
        exact hreplace h
  | _ => cases h

theorem moveCaret?_effect {motion : Motion} {r : Outcome × Editor}
    (h : s.moveCaret? motion = some r) : PressEffect s mayUndo r := by
  simp only [moveCaret?, Buffer.move?_eq, Option.bind_eq_bind, Option.bind_eq_some_iff] at h
  obtain ⟨offset, ho, h⟩ := h
  split at h
  · cases h
    exact .unchanged
  · cases h
    refine .caret fun hf => ?_
    obtain ⟨n, hn, hb⟩ := Caret.move?_isBoundary hf motion
    rw [ho] at hn
    cases hn
    exact hb

theorem pressPlain?_effect {press : KeyPress} {r : Outcome × Editor}
    (h : s.pressPlain? press = some r) : PressEffect s mayUndo r := by
  unfold pressPlain? at h
  split at h
  · exact moveCaret?_effect h
  · exact moveCaret?_effect h
  · exact moveCaret?_effect h
  · exact moveCaret?_effect h
  · exact moveCaret?_effect h
  · exact moveCaret?_effect h
  · simp only [Option.bind_eq_bind, Option.bind_eq_some_iff] at h
    obtain ⟨edit, he, h⟩ := h
    split at h
    · cases h
      exact .unchanged
    · exact .change (edit?_isCollapsed he) h

/-- The trigger that Enter expands is found on the text. -/
theorem trigger?_at {key : Key} {trigger : Trigger} (h : s.trigger? key = some (some trigger)) :
    Trigger.at? s.text s.selection.start = some trigger := by
  unfold trigger? at h
  split at h
  · rw [Buffer.trigger?_eq, Option.some.injEq] at h
    exact h
  · cases h

theorem pressInText?_effect {press : KeyPress} {r : Outcome × Editor}
    (h : s.pressInText? press = some r) : PressEffect s mayUndo r := by
  simp only [pressInText?, Option.bind_eq_bind, Option.bind_eq_some_iff] at h
  obtain ⟨trigger, ht, h⟩ := h
  split at h
  · simp only [Buffer.expand?_eq, Option.bind_eq_some_iff] at h
    obtain ⟨c, hc, h⟩ := h
    cases h
    refine .act _ fun _ => Selection.collapsed_fits_iff.2 ?_
    obtain ⟨c', hc', hf⟩ := Trigger.expand?_fits (trigger?_at ht)
    rw [hc] at hc'
    cases hc'
    exact hf
  · simp only [Option.bind_eq_some_iff] at h
    obtain ⟨name, -, h⟩ := h
    split at h
    · simp only [Option.bind_eq_some_iff] at h
      obtain ⟨c, hc, h⟩ := h
      cases h
      refine .act _ fun hf => Selection.collapsed_fits_iff.2 ?_
      obtain ⟨c', hc', hfits⟩ := Completion.autoClose?_fits hf _
      rw [hc] at hc'
      cases hc'
      exact hfits
    · exact pressPlain?_effect h

/-- **A key press does one of six things.** -/
theorem press?_effect {press : KeyPress} {r : Outcome × Editor} (h : s.press? press = some r) :
    PressEffect s press.isUndo r := by
  unfold press? at h
  split at h
  · next hundo =>
    cases h
    exact .undo hundo
  · split at h
    · simp only [Buffer.duplicate?_eq, Option.bind_eq_bind, Option.bind_eq_some_iff] at h
      obtain ⟨edit, he, h⟩ := h
      cases h
      refine .act _ fun hf => ?_
      obtain ⟨e, he', hfits⟩ := Edit.duplicate?_fits hf
      rw [he] at he'
      cases he'
      exact hfits
    · split at h
      · simp only [Option.bind_eq_bind, Option.bind_eq_some_iff] at h
        obtain ⟨taken, ht, h⟩ := h
        obtain ⟨r', hr', he⟩ := pressInMenu?_spec s press.key press.isUndo
        rw [ht] at hr'
        cases hr'
        split at h
        · cases h
          exact he r rfl
        · exact pressInText?_effect h
      · exact pressInText?_effect h

/-- A change leaves the active facet and the configuration alone. -/
theorem frame_change {t : Text} {selection : Selection} {r : Outcome × Editor}
    (h : ChangeEffect s t selection r) : r.2.facet = s.facet ∧ r.2.config = s.config := by
  cases h with
  | rename renamed menu h => exact ⟨rfl, rfl⟩
  | edit menu h => exact ⟨rfl, rfl⟩

/-- So does a key press. -/
theorem frame_press {r : Outcome × Editor} (h : PressEffect s mayUndo r) :
    r.2.facet = s.facet ∧ r.2.config = s.config := by
  cases h with
  | undo =>
    obtain ⟨timer, history, hflush⟩ := flush_frame s
    rcases undo_cases s with ⟨-, hundo⟩ | ⟨history, -, -, hundo⟩
    · rw [hundo, hflush]
      exact ⟨rfl, rfl⟩
    · rw [hundo, hflush]
      exact ⟨rfl, rfl⟩
  | unchanged => exact ⟨rfl, rfl⟩
  | menu menu => exact ⟨rfl, rfl⟩
  | caret => exact ⟨rfl, rfl⟩
  | act action hedit => exact ⟨rfl, rfl⟩
  | change hc hr => exact frame_change (change?_effect hr)

/-- A click outside the menu does nothing, and one on a suggestion accepts it. -/
theorem click?_cases (s : Editor) (index : Nat) :
    s.click? index = some (.unchanged, s) ∨
      ∃ edit, s.click? index = some (s.perform .suggestion edit) := by
  unfold click? hover? Menu.hover?
  split
  · exact Or.inl rfl
  · next s' hs' =>
    split at hs'
    · next hindex =>
      cases hs'
      have hitem : s.menu.items[index]? = some s.menu.items[index] := List.getElem?_eq_getElem hindex
      right
      simp only [accept?, Menu.highlighted?, hitem, Buffer.accept?_eq, Option.bind_eq_bind,
        Option.bind_some]
      exact ⟨_, rfl⟩
    · cases hs'

theorem click?_spec (s : Editor) (index : Nat) :
    ∃ r menu, s.click? index = some r ∧ PressEffect { s with menu := menu } False r := by
  unfold click? hover?
  cases s.menu.hover? index with
  | none => exact ⟨_, s.menu, rfl, .unchanged⟩
  | some menu =>
    obtain ⟨r, hr, he⟩ := accept?_spec { s with menu := menu } False
    exact ⟨r, menu, hr, he⟩

/-! ## Selections from outside -/

/-- The editor with a template appended, and the selection made to fit what the active buffer
becomes. -/
def withTemplate (s : Editor) (template : Template) : Editor :=
  let document := s.document.append template
  s.installDocument document
    (.clamp (document.get s.facet) s.selection.start s.selection.stop)

/-- The editor with the selection that waits for rendering shown, if there is one. -/
def withPending (s : Editor) : Editor :=
  match s.pendingSelection with
  | none => s
  | some pending =>
    { s with selection := .clamp s.text pending.start pending.stop, pendingSelection := none }

theorem perform?_select (s : Editor) (start stop : Nat) :
    s.perform? (.select start stop) = some { s with selection := .clamp s.text start stop } := by
  rw [perform?, selected?, Buffer.clamp?_eq]
  rfl

theorem perform?_inject (s : Editor) (id : Text) :
    s.perform? (.inject id) = some (((Template.find? id).map s.withTemplate).getD s) := by
  rw [perform?, injected?]
  cases Template.find? id with
  | none => rfl
  | some template =>
    simp only [insertTemplate?, Buffer.clamp?_eq]
    rfl

theorem perform?_finishRender (s : Editor) : s.perform? .finishRender = some s.withPending := by
  rw [perform?, rendered?, withPending]
  cases s.pendingSelection with
  | none => rfl
  | some pending =>
    simp only [Buffer.clamp?_eq]
    rfl

/-! ## All operations -/

/-- The seven things that an operation does.  A press of the pointer is a press in an editor
whose menu has another highlight.  The delay of a commit is never configured anew. -/
inductive OperationEffect (s : Editor) : Editor → Prop where
  | press (menu : Menu) {mayUndo : Prop} {r : Outcome × Editor}
      (h : PressEffect { s with menu := menu } mayUndo r) :
      OperationEffect s r.2
  | change {t : Text} {selection : Selection} {r : Outcome × Editor}
      (h : ChangeEffect s t selection r) : OperationEffect s r.2
  | view (config : Config) (facet : Facet) (selection : Selection)
      (pendingSelection : Option Selection) (menu : Menu)
      (hdelay : config.commitDelay = s.config.commitDelay) :
      OperationEffect s { s with
        config := config
        facet := facet
        selection := selection
        pendingSelection := pendingSelection
        menu := menu }
  | tick (time : Nat) : OperationEffect s (s.tick time).2
  | flush : OperationEffect s s.flush.2
  | install (document : Document) (selection : Selection) :
      OperationEffect s (s.installDocument document selection)
  | load (document : Document) : OperationEffect s (s.load document)

/-- **An operation does one of seven things.** -/
theorem perform?_effect {s' : Editor} {operation : Operation}
    (h : s.perform? operation = some s') : OperationEffect s s' := by
  have unchanged : OperationEffect s s :=
    .view s.config s.facet s.selection s.pendingSelection s.menu rfl
  cases operation with
  | press press =>
    obtain ⟨r, hr, rfl⟩ := Option.map_eq_some_iff.1 h
    exact .press s.menu (press?_effect hr)
  | change t selection =>
    obtain ⟨r, hr, rfl⟩ := Option.map_eq_some_iff.1 h
    exact .change (change?_effect hr)
  | switchTo facet =>
    cases h
    exact .view _ _ _ _ _ rfl
  | tick time =>
    cases h
    exact .tick time
  | advance delay =>
    cases h
    exact .tick _
  | hover index =>
    cases h
    unfold hover?
    cases s.menu.hover? index with
    | none => exact unchanged
    | some menu => exact .view _ _ _ _ menu rfl
  | click index =>
    obtain ⟨r, hr, rfl⟩ := Option.map_eq_some_iff.1 h
    obtain ⟨r', menu, hr', he⟩ := click?_spec s index
    rw [hr] at hr'
    cases hr'
    exact .press menu he
  | select start stop =>
    rw [perform?_select] at h
    cases h
    exact .view _ _ _ _ _ rfl
  | inject id =>
    rw [perform?_inject] at h
    cases h
    cases Template.find? id with
    | none => exact unchanged
    | some template => exact .install _ _
  | load document =>
    cases h
    exact .load document
  | finishRender =>
    rw [perform?_finishRender] at h
    cases h
    unfold withPending
    cases s.pendingSelection with
    | none => exact unchanged
    | some pending => exact .view _ _ _ _ _ rfl
  | flush =>
    cases h
    exact .flush
  | setAutoClose on =>
    cases h
    exact .view _ _ _ _ _ rfl
  | setPredictions on =>
    cases h
    exact .view _ _ _ _ _ rfl

end Editor

end MarkupPad
