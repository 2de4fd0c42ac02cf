import MarkupPad.Proofs.Editor.Typing
import MarkupPad.Proofs.Editor.Undo

/-!
# The deadline is near

A commit that is pending is due within the delay from now.  So whoever gives the clock the
delay once more finds the document committed.

    Reachable s → s.InTime                                            (Reachable.inTime)
    (s.advance s.config.commitDelay).2.timer = .idle           (Reachable.advance_commitDelay)
-/

namespace MarkupPad

namespace Clock

/-- The clock reads a later time after the same delay when it starts later. -/
theorem after_mono {now now' : Nat} (h : now ≤ now') (delay : Nat) :
    after now delay ≤ after now' delay := by
  unfold after
  omega

end Clock

namespace Editor

variable {s s' : Editor}

/-- A commit that is pending is due within the delay. -/
def InTime (s : Editor) : Prop :=
  ∀ deadline ∈ s.timer.deadline, deadline ≤ Clock.after s.now s.config.commitDelay

/-! ## One operation -/

/-- Without a deadline nothing is late. -/
theorem inTime_of_idle (h : s.timer = .idle) : s.InTime := by
  intro deadline hd
  rw [h] at hd
  cases hd

/-- Whoever leaves the timer alone and the clock its way keeps the deadline near. -/
theorem InTime.congr (h : s.InTime) (ht : s'.timer = s.timer) (hnow : s.now ≤ s'.now)
    (hdelay : s'.config.commitDelay = s.config.commitDelay) : s'.InTime := by
  intro deadline hd
  rw [ht] at hd
  rw [hdelay]
  exact Nat.le_trans (h deadline hd) (Clock.after_mono hnow _)

theorem inTime_flush (h : s.InTime) : s.flush.2.InTime := by
  unfold flush
  split
  · exact inTime_of_idle rfl
  · exact h

theorem inTime_tick (h : s.InTime) (time : Nat) : (s.tick time).2.InTime := by
  unfold tick
  simp only
  split
  · exact inTime_of_idle rfl
  · exact h.congr rfl (Nat.le_max_left _ _) rfl

theorem inTime_undo (h : s.InTime) : s.undo.2.InTime := by
  have h' := inTime_flush h
  rcases undo_cases s with ⟨-, hundo⟩ | ⟨history, -, -, hundo⟩
  · rw [hundo]
    exact h'
  · rw [hundo]
    exact h'.congr rfl (Nat.le_refl _) rfl

theorem inTime_change {t : Text} {selection : Selection} {r : Outcome × Editor}
    (he : ChangeEffect s t selection r) : r.2.InTime := by
  cases he with
  | rename renamed menu h => exact inTime_of_idle rfl
  | edit menu h =>
    rintro deadline ⟨⟩
    exact Nat.le_refl _

theorem inTime_press {mayUndo : Prop} {r : Outcome × Editor} (h : s.InTime)
    (he : PressEffect s mayUndo r) : r.2.InTime := by
  cases he with
  | undo => exact inTime_undo h
  | unchanged => exact h
  | menu menu => exact h.congr rfl (Nat.le_refl _) rfl
  | caret => exact h.congr rfl (Nat.le_refl _) rfl
  | act action hedit => exact inTime_of_idle rfl
  | change hc hr => exact inTime_change (change?_effect hr)

theorem inTime_perform? {operation : Operation} (h : s.InTime)
    (hp : s.perform? operation = some s') : s'.InTime := by
  cases perform?_effect hp with
  | press menu he =>
    have h' : { s with menu := menu : Editor }.InTime := h.congr rfl (Nat.le_refl _) rfl
    exact inTime_press h' he
  | change he => exact inTime_change he
  | view config facet selection pendingSelection menu hdelay =>
    exact h.congr rfl (Nat.le_refl _) hdelay
  | tick time => exact inTime_tick h time
  | flush => exact inTime_flush h
  | install document selection => exact inTime_of_idle rfl
  | load document => exact inTime_of_idle rfl

/-- **Whatever has led to an editor, its deadline is within the delay.** -/
theorem Reachable.inTime (h : Reachable s) : s.InTime := by
  induction h with
  | new config => exact inTime_of_idle rfl
  | perform operation _ hp ih => exact inTime_perform? ih hp

/-! ## The delay once more -/

/-- **When the delay goes by, the document is committed and nothing waits any more.** -/
theorem Reachable.advance_commitDelay (h : Reachable s) :
    ¬ (s.advance s.config.commitDelay).2.timer.isPending ∧
      (s.advance s.config.commitDelay).2.history.current =
        (s.advance s.config.commitDelay).2.document := by
  cases hd : s.timer.deadline with
  | none =>
    have hidle : s.timer = .idle := congrArg Timer.mk hd
    rw [advance, tick_of_idle hidle]
    rcases h.kept with hpending | hcurrent
    · rw [hidle] at hpending
      cases hpending
    · refine ⟨?_, hcurrent⟩
      show ¬ s.timer.isPending
      rw [hidle]
      exact Bool.false_ne_true
  | some deadline =>
    have hnear := h.inTime deadline hd
    rw [advance, tick_of_due hd (Nat.le_trans hnear (Nat.le_max_right _ _))]
    exact ⟨Bool.false_ne_true, commit_snd_current _⟩

end Editor

end MarkupPad
