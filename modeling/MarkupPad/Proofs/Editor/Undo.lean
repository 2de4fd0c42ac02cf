import MarkupPad.Proofs.Editor.History
import MarkupPad.Proofs.History

/-!
# What undo brings back

Undo commits what has been typed since the last commit and goes one entry back.  So it leads to
the last committed document when that is not the live one, and to the entry before it otherwise.
It does nothing when there is no such entry, or when there is room for one entry only.

    Kept s → s.flush.2.history = (s.history.commit s.document).2        (flush_snd_history)
    Reachable s → s.history.Grown                                       (Reachable.grown)
-/

namespace MarkupPad.Editor

open Text

variable {s : Editor}

/-! ## The history of an editor -/

theorem grown_flush (h : s.history.Grown) : s.flush.2.history.Grown := by
  unfold flush
  split
  · exact .commit _ h
  · exact h

theorem grown_tick (h : s.history.Grown) (time : Nat) : (s.tick time).2.history.Grown := by
  unfold tick
  simp only
  split
  · exact .commit _ h
  · exact h

theorem grown_undo (h : s.history.Grown) : s.undo.2.history.Grown := by
  rcases undo_cases s with ⟨-, hundo⟩ | ⟨history, hu, -, hundo⟩
  · rw [hundo]
    exact grown_flush h
  · rw [hundo]
    exact .undo (grown_flush h) hu

theorem grown_change {t : Text} {selection : Selection} {r : Outcome × Editor}
    (h : s.history.Grown) (he : ChangeEffect s t selection r) : r.2.history.Grown := by
  cases he with
  | rename renamed menu => exact .commit _ h
  | edit menu => exact h

theorem grown_press {mayUndo : Prop} {r : Outcome × Editor} (h : s.history.Grown)
    (he : PressEffect s mayUndo r) : r.2.history.Grown := by
  cases he with
  | undo => exact grown_undo h
  | unchanged => exact h
  | menu menu => exact h
  | caret hcaret => exact h
  | act action hedit => exact .commit _ h
  | change hc hr => exact grown_change h (change?_effect hr)

/-- Commits, steps back and fresh starts are all that an operation does to the history. -/
theorem grown_perform? {s' : Editor} {operation : Operation} (h : s.history.Grown)
    (hp : s.perform? operation = some s') : s'.history.Grown := by
  cases perform?_effect hp with
  | press menu he => exact grown_press (s := { s with menu := menu }) h he
  | change he => exact grown_change h he
  | view config facet selection pendingSelection menu => exact h
  | tick time => exact grown_tick h time
  | flush => exact grown_flush h
  | install document selection => exact .commit _ h
  | load document => exact .reset _ h

/-- **The history of an editor grows from a new one.** -/
theorem Reachable.grown (h : Reachable s) : s.history.Grown := by
  induction h with
  | new config => exact .new _ _
  | perform operation _ hp ih => exact grown_perform? ih hp

/-- Whatever has led to an editor, its document is kept. -/
theorem Reachable.kept (h : Reachable s) : s.Kept := by
  induction h with
  | new config => exact Or.inr rfl
  | perform operation _ hp ih => exact kept_perform? ih hp

/-! ## Flushing -/

theorem flush_snd_document (s : Editor) : s.flush.2.document = s.document := by
  unfold flush
  split
  · rfl
  · rfl

theorem not_isPending_flush_snd (s : Editor) : ¬ s.flush.2.timer.isPending := by
  unfold flush
  split
  · exact Bool.false_ne_true
  · next h => exact h

/-- A flush commits the document, also where no commit is pending: then it is committed
already. -/
theorem flush_snd_history (h : s.Kept) : s.flush.2.history = (s.history.commit s.document).2 := by
  unfold flush
  split
  · rfl
  · next hp =>
    rcases h with h | h
    · exact absurd h hp
    · rw [History.commit_of_eq h]

/-! ## One step back -/

/-- An undo that has gone back leaves a caret at the end of the active buffer, no menu, and
nothing that the history does not hold. -/
structure WentBack (outcome : Outcome) (s : Editor) : Prop where
  outcome_eq : outcome = .applied .undo (.collapsed s.text (size s.text))
  selection_eq : s.selection = .collapsed (size s.text)
  menu_eq : s.menu = .empty
  not_isPending : ¬ s.timer.isPending
  current_eq : s.history.current = s.document

theorem undo_of_some {history : History Document} (h : s.flush.2.history.undo? = some history) :
    s.undo.2.document = history.current ∧ WentBack s.undo.1 s.undo.2 := by
  rcases undo_cases s with ⟨hnone, -⟩ | ⟨history, hu, houtcome, hundo⟩
  · cases h.symm.trans hnone
  · cases h.symm.trans hu
    rw [houtcome, hundo]
    exact ⟨rfl, rfl, rfl, rfl, not_isPending_flush_snd s, rfl⟩

/-- **The exact meaning of undo.**  Where the document is not the current entry it becomes that
entry; where it is, it becomes the entry before it.  Where there is none, or no room for two, it
stays. -/
theorem undo_is_exact (h : Reachable s) {m : Modifiers} (hm : m.holds .ctrl ∨ m.holds .command) :
    ∃ outcome s', s.press? ⟨.char 'z', m⟩ = some (outcome, s') ∧
      (s.document ≠ s.history.current → 2 ≤ s.history.capacity →
        s'.document = s.history.current ∧ WentBack outcome s') ∧
      (s.document = s.history.current → 0 < s.history.step →
        s.history.reached[s.history.step - 1]? = some s'.document ∧ WentBack outcome s') ∧
      (s.document = s.history.current ∧ s.history.step = 0 ∨ s.history.capacity = 1 →
        outcome = .unchanged ∧ s'.document = s.document) := by
  have hpress : s.press? ⟨.char 'z', m⟩ = some s.undo := by
    have hundo : KeyPress.isUndo ⟨.char 'z', m⟩ := by simpa [KeyPress.isUndo] using hm
    rw [press?, if_pos hundo]
  have hflush := flush_snd_history h.kept
  refine ⟨s.undo.1, s.undo.2, hpress, ?edited, ?kept, ?first⟩
  case edited =>
    intro hne hk
    obtain ⟨history, hu, hcurrent⟩ := History.undo?_commit hne.symm hk
    rw [← hflush] at hu
    rw [← hcurrent]
    exact undo_of_some hu
  case kept =>
    intro heq hstep
    rw [History.commit_of_eq heq.symm] at hflush
    have hsome : s.flush.2.history.undo? ≠ none := by
      rw [hflush, Ne, History.undo?_eq_none_iff]
      exact Nat.ne_of_gt hstep
    obtain ⟨history, hu⟩ := Option.ne_none_iff_exists'.1 hsome
    obtain ⟨hdocument, hback⟩ := undo_of_some hu
    rw [hflush] at hu
    rw [hdocument]
    exact ⟨History.undo?_current hu, hback⟩
  case first =>
    intro hfirst
    have hnone : s.flush.2.history.undo? = none := by
      rcases hfirst with ⟨heq, hstep⟩ | hk
      · rw [hflush, History.commit_of_eq heq.symm]
        exact History.undo?_eq_none_iff.2 hstep
      · refine (grown_flush h.grown).undo?_eq_none ?_
        rw [hflush, History.commit_capacity, hk]
    rcases undo_cases s with ⟨-, hundo⟩ | ⟨history, hu, -⟩
    · rw [hundo]
      exact ⟨rfl, flush_snd_document s⟩
    · cases hnone.symm.trans hu

/-- Where there is room for two entries, a third text is typed and taken back: its commit has
dropped the oldest entry by then. -/
theorem undo_is_exact_with_room_for_two :
    ∃ s, Reachable s ∧ s.history.capacity = 2 ∧ s.document = ⟨[], ['a', 'b', 'c'], []⟩ ∧
      s.history.reached = [⟨[], ['a'], []⟩, ⟨[], ['a', 'b'], []⟩] ∧
      ∃ outcome s', s.press? ⟨.char 'z', .command⟩ = some (outcome, s') ∧
        s'.document = ⟨[], ['a', 'b'], []⟩ ∧ WentBack outcome s' := by
  have hstyle : Reachable ((new { Config.default with historyCapacity := 2 }).switchTo .style) :=
    .perform (.switchTo .style) (.new _) rfl
  have ha := Reachable.perform .flush (.perform (.change ['a'] ⟨1, 1⟩) hstyle rfl) rfl
  have hab := Reachable.perform .flush (.perform (.change ['a', 'b'] ⟨2, 2⟩) ha rfl) rfl
  have habc := Reachable.perform (.change ['a', 'b', 'c'] ⟨3, 3⟩) hab rfl
  obtain ⟨outcome, s', hs', hedited, -, -⟩ :=
    undo_is_exact habc (m := .command) (Or.inr (by decide))
  obtain ⟨hdocument, hback⟩ := hedited (by decide) (Nat.le_refl 2)
  exact ⟨_, habc, rfl, rfl, rfl, outcome, s', hs', hdocument, hback⟩

end MarkupPad.Editor
