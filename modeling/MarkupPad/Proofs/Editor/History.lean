import MarkupPad.Proofs.Editor.Effect

/-!
# No edit is lost to the history

Whenever no commit is pending, the document is the current entry of the history.  Every
operation that rewrites the document commits it or arms the timer, and the timer is disarmed
only by a commit or together with the history.

    Reachable s → s.timer.isPending ∨ s.history.current = s.document    (document_is_kept)
-/

namespace MarkupPad.Editor

/-- The live document is in the history, or on its way there. -/
def Kept (s : Editor) : Prop := s.timer.isPending ∨ s.history.current = s.document

variable {s : Editor}

/-! ## One operation -/

/-- Whoever leaves document, history and timer alone keeps the document. -/
theorem Kept.congr {s' : Editor} (h : s.Kept) (hd : s'.document = s.document)
    (hh : s'.history = s.history) (ht : s'.timer = s.timer) : s'.Kept := by
  unfold Kept
  rw [hd, hh, ht]
  exact h

/-- A commit makes the document the current entry. -/
theorem commit_snd_current (s : Editor) : s.commit.2.history.current = s.commit.2.document := by
  rw [commit_snd]
  exact History.commit_current _ _

theorem kept_commit (s : Editor) : s.commit.2.Kept := Or.inr (commit_snd_current s)

/-- After a flush nothing is on its way any more. -/
theorem flush_snd_current (h : s.Kept) : s.flush.2.history.current = s.flush.2.document := by
  unfold flush
  split
  · exact commit_snd_current s
  · next hp =>
    rcases h with h | h
    · exact absurd h hp
    · exact h

theorem kept_tick (h : s.Kept) (time : Nat) : (s.tick time).2.Kept := by
  unfold tick
  simp only
  split
  · exact kept_commit _
  · exact h.congr rfl rfl rfl

theorem kept_undo (h : s.Kept) : s.undo.2.Kept := by
  rcases undo_cases s with ⟨-, hundo⟩ | ⟨history, -, -, hundo⟩
  · rw [hundo]
    exact Or.inr (flush_snd_current h)
  · rw [hundo]
    exact Or.inr rfl

theorem kept_change {t : Text} {selection : Selection} {r : Outcome × Editor}
    (h : ChangeEffect s t selection r) : r.2.Kept := by
  cases h with
  | rename renamed menu =>
    have hc := kept_commit (s.install ⟨renamed, .clamp t selection.start selection.stop⟩)
    exact hc.congr rfl rfl rfl
  | edit menu => exact Or.inl rfl

theorem kept_press {mayUndo : Prop} {r : Outcome × Editor} (h : s.Kept)
    (he : PressEffect s mayUndo r) : r.2.Kept := by
  cases he with
  | undo => exact kept_undo h
  | unchanged => exact h
  | menu menu => exact h.congr rfl rfl rfl
  | caret hcaret => exact h.congr rfl rfl rfl
  | act action hedit => exact kept_commit _
  | change hc hr => exact kept_change (change?_effect hr)

/-- **Every operation keeps the document.** -/
theorem kept_perform? {s' : Editor} {operation : Operation} (h : s.Kept)
    (hp : s.perform? operation = some s') : s'.Kept := by
  cases perform?_effect hp with
  | press menu he =>
    have h' : { s with menu := menu : Editor }.Kept := h.congr rfl rfl rfl
    exact kept_press h' he
  | change he => exact kept_change he
  | view config facet selection pendingSelection menu => exact h.congr rfl rfl rfl
  | tick time => exact kept_tick h time
  | flush => exact Or.inr (flush_snd_current h)
  | install document selection => exact kept_commit _
  | load document => exact Or.inr rfl

/-! ## Runs -/

/-- **No edit is lost**: in every state of an editor a commit is pending, or the document, in
all its facets, is the current entry of the history. -/
theorem document_is_kept (h : Reachable s) :
    s.timer.isPending ∨ s.history.current = s.document := by
  induction h with
  | new config => exact Or.inr rfl
  | perform operation _ hp ih => exact kept_perform? ih hp

/-- A letter is put into the style sheet and taken back at once: the undone text is in the
history. -/
theorem document_is_kept_after_undo :
    ∃ s, Reachable s ∧ s.history.undone = [⟨[], ['a'], []⟩] ∧ s.document = .empty ∧
      (s.timer.isPending ∨ s.history.current = s.document) := by
  have hstyle : Reachable ((new .default).switchTo .style) :=
    .perform (.switchTo .style) (.new .default) rfl
  have hchange := Reachable.perform (.change ['a'] ⟨1, 1⟩) hstyle rfl
  have hundo := Reachable.perform (.press ⟨.char 'z', .ctrl⟩) hchange rfl
  exact ⟨_, hundo, rfl, rfl, document_is_kept hundo⟩

end MarkupPad.Editor
