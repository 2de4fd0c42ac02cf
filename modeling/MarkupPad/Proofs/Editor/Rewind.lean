import MarkupPad.Proofs.Editor.Renaming
import MarkupPad.Proofs.Editor.Undo
import MarkupPad.Proofs.History.Stack

/-!
# All the way back

Neighbouring entries of a history differ, so an undo that goes back always shows another document.
It leaves one entry less to go back to.  At the oldest entry undo does nothing, however often it is
pressed, and the document stays that entry.

    h.undo? = some h' → h'.step + 1 = h.step                              (History.undo?_step)
    h.Grown → h.undo? = some h' → h'.current ≠ h.current                  (Grown.undo?_ne)
    0 < s.stepsBack → s.undo.2.stepsBack + 1 = s.stepsBack                (undo_of_stepsBack_pos)
    s.stepsBack = 0 → s.undo = (.unchanged, s.flush.2)                    (undo_of_stepsBack_eq_zero)
-/

namespace MarkupPad

namespace History

variable {α : Type} {h h' : History α}

/-! ## One step back -/

theorem undo?_step (hu : h.undo? = some h') : h'.step + 1 = h.step := by
  unfold undo? at hu
  split at hu
  · cases hu
  · next older past hp =>
    cases hu
    simp [step, hp]

/-- The oldest entry is the first one in the row. -/
theorem head?_entries (hstep : h.step = 0) : h.entries.head? = some h.current := by
  have hpast : h.past = [] := List.length_eq_zero_iff.1 hstep
  simp [entries, reached, hpast]

variable [DecidableEq α]

theorem Grown.step_lt (hg : h.Grown) : h.step < h.capacity := by
  have hl := hg.length_le
  rw [length] at hl
  rw [step]
  omega

/-- **A step back leads to another entry.** -/
theorem Grown.undo?_ne (hg : h.Grown) (hu : h.undo? = some h') : h'.current ≠ h.current := by
  have hchain := hg.isChain
  unfold undo? at hu
  split at hu
  · cases hu
  · next older past hp =>
    cases hu
    rw [entries, reached, hp, List.reverse_cons, List.append_assoc, List.append_assoc] at hchain
    exact (List.isChain_cons_cons.1 (List.isChain_append.1 hchain).2.1).1

end History

namespace Editor

variable {s : Editor}

/-! ## One undo -/

/-- How many entries there are to go back to, once what has been typed is committed. -/
def stepsBack (s : Editor) : Nat := s.flush.2.history.step

theorem flush_of_not_isPending (h : ¬ s.timer.isPending) : s.flush.2 = s := by
  rw [flush, if_neg h]

theorem stepsBack_lt (hk : s.Kept) (hg : s.history.Grown) : s.stepsBack < s.history.capacity := by
  have hcapacity : s.flush.2.history.capacity = s.history.capacity := by
    rw [flush_snd_history hk, History.commit_capacity]
  rw [← hcapacity]
  exact (grown_flush hg).step_lt

theorem press?_of_isUndo {press : KeyPress} (h : press.isUndo) : s.press? press = some s.undo := by
  rw [press?, if_pos h]

/-- Where there is an entry to go back to, undo shows it, and there is one less. -/
theorem undo_of_stepsBack_pos (hk : s.Kept) (hg : s.history.Grown) (h : 0 < s.stepsBack) :
    (∃ edit, s.undo.1 = .applied .undo edit) ∧ s.undo.2.document ≠ s.document ∧
      s.undo.2.stepsBack + 1 = s.stepsBack ∧ ¬ s.undo.2.timer.isPending := by
  rcases undo_cases s with ⟨hnone, -⟩ | ⟨history, hu, houtcome, hundo⟩
  · rw [History.undo?_eq_none_iff] at hnone
    exact absurd hnone (Nat.ne_of_gt h)
  · have hidle : ¬ (s.flush.2.showing history).timer.isPending := not_isPending_flush_snd s
    rw [houtcome, hundo]
    refine ⟨⟨_, rfl⟩, ?_, ?_, hidle⟩
    · have hne := (grown_flush hg).undo?_ne hu
      rw [flush_snd_current hk, flush_snd_document] at hne
      exact hne
    · rw [stepsBack, flush_of_not_isPending hidle]
      exact History.undo?_step hu

theorem undo_of_stepsBack_eq_zero (h : s.stepsBack = 0) : s.undo = (.unchanged, s.flush.2) := by
  have hnone : s.flush.2.history.undo? = none := History.undo?_eq_none_iff.2 h
  rcases undo_cases s with ⟨-, hundo⟩ | ⟨history, hu, -⟩
  · exact hundo
  · cases hnone.symm.trans hu

/-- An undo that is nothing but a flush leaves as much to go back to. -/
theorem stepsBack_flush (s : Editor) : s.flush.2.stepsBack = s.stepsBack := by
  rw [stepsBack, flush_of_not_isPending (not_isPending_flush_snd s), stepsBack]

/-! ## Undo pressed again and again -/

/-- What one undo does to the number of entries to go back to. -/
theorem stepsBack_undo (hk : s.Kept) (hg : s.history.Grown) :
    s.undo.2.stepsBack = s.stepsBack - 1 ∧ ¬ s.undo.2.timer.isPending := by
  rcases Nat.eq_zero_or_pos s.stepsBack with hzero | hpos
  · rw [undo_of_stepsBack_eq_zero hzero, stepsBack_flush, hzero]
    exact ⟨rfl, not_isPending_flush_snd s⟩
  · obtain ⟨-, -, hsteps, hidle⟩ := undo_of_stepsBack_pos hk hg hpos
    exact ⟨by omega, hidle⟩

/-- Some undos in turn count down the entries to go back to. -/
theorem pressAll?_of_isUndo (hk : s.Kept) (hg : s.history.Grown) {presses : List KeyPress}
    (hp : ∀ press ∈ presses, press.isUndo) :
    ∃ outcomes s', s.pressAll? presses = some (outcomes, s') ∧ s'.Kept ∧ s'.history.Grown ∧
      s'.stepsBack = s.stepsBack - presses.length ∧ (presses ≠ [] → ¬ s'.timer.isPending) := by
  induction presses generalizing s with
  | nil => exact ⟨[], s, rfl, hk, hg, rfl, fun hne => absurd rfl hne⟩
  | cons press presses ih =>
    obtain ⟨hundo, hp⟩ := List.forall_mem_cons.1 hp
    obtain ⟨hsteps, hidle⟩ := stepsBack_undo hk hg
    obtain ⟨outcomes, s', hs', hk', hg', hsteps', hidle'⟩ := ih (kept_undo hk) (grown_undo hg) hp
    refine ⟨s.undo.1 :: outcomes, s', ?_, hk', hg', ?_, ?_⟩
    · simp only [pressAll?, press?_of_isUndo hundo, hs', Option.bind_eq_bind, Option.bind_some]
      rfl
    · rw [hsteps', hsteps, List.length_cons]
      omega
    · intro _
      by_cases hlast : presses = []
      · subst hlast
        cases hs'
        exact hidle
      · exact hidle' hlast

/-- **Undo makes progress until it has come to the oldest entry.**  There are fewer entries to go
back to than the history has room for.  As long as one is left, another undo shows another document
and leaves one less; then it does nothing any more, and the document is the oldest entry. -/
theorem undo_ends_at_oldest (h : Reachable s) :
    s.stepsBack < s.history.capacity ∧
    ∀ (presses : List KeyPress) (last : KeyPress),
      (∀ press ∈ presses, press.isUndo) → last.isUndo →
      ∃ outcomes before outcome after,
        s.pressAll? presses = some (outcomes, before) ∧
        before.press? last = some (outcome, after) ∧
        (presses.length < s.stepsBack →
          (∃ edit, outcome = .applied .undo edit) ∧ after.document ≠ before.document ∧
          after.history.step + (presses.length + 1) = s.stepsBack) ∧
        (s.stepsBack ≤ presses.length →
          outcome = .unchanged ∧ after.document = before.document ∧
          after.history.step = 0 ∧ after.history.entries.head? = some after.document ∧
          (presses ≠ [] → after = before)) := by
  refine ⟨stepsBack_lt h.kept h.grown, ?_⟩
  intro presses last hpresses hlast
  obtain ⟨outcomes, before, hbefore, hk, hg, hsteps, hidle⟩ :=
    pressAll?_of_isUndo h.kept h.grown hpresses
  refine ⟨outcomes, before, before.undo.1, before.undo.2, hbefore, press?_of_isUndo hlast, ?back,
    ?oldest⟩
  case back =>
    intro hleft
    obtain ⟨hedit, hne, hless, hflushed⟩ := undo_of_stepsBack_pos hk hg (by omega)
    refine ⟨hedit, hne, ?_⟩
    rw [stepsBack, flush_of_not_isPending hflushed] at hless
    omega
  case oldest =>
    intro hnone
    have hzero : before.stepsBack = 0 := by omega
    have holdest := History.head?_entries hzero
    rw [flush_snd_current hk] at holdest
    rw [undo_of_stepsBack_eq_zero hzero]
    refine ⟨rfl, flush_snd_document before, hzero, holdest, ?_⟩
    intro hne
    exact flush_of_not_isPending (hidle hne)

/-- Where there is room for three entries, three texts are typed, the last one not committed yet.
The second undo shows the first text, and the third does nothing: the empty document has gone. -/
theorem undo_ends_at_oldest_of_three :
    ∃ s, Reachable s ∧ s.timer.isPending ∧ s.history.capacity = 3 ∧ s.stepsBack = 2 ∧
      ∃ outcomes before after,
        s.pressAll? [⟨.char 'z', .ctrl⟩, ⟨.char 'z', .command⟩] = some (outcomes, before) ∧
        before.press? ⟨.char 'z', .ctrl⟩ = some (.unchanged, after) ∧
        after.history.step = 0 ∧ after.document = ⟨[], ['a'], []⟩ := by
  have hstyle : Reachable ((new { Config.default with historyCapacity := 3 }).switchTo .style) :=
    .perform (.switchTo .style) (.new _) rfl
  have ha := Reachable.perform .flush (.perform (.change ['a'] ⟨1, 1⟩) hstyle rfl) rfl
  have hab := Reachable.perform .flush (.perform (.change ['a', 'b'] ⟨2, 2⟩) ha rfl) rfl
  have habc := Reachable.perform (.change ['a', 'b', 'c'] ⟨3, 3⟩) hab rfl
  obtain ⟨outcomes, before, outcome, after, hbefore, hafter, -, holdest⟩ :=
    (undo_ends_at_oldest habc).2 [⟨.char 'z', .ctrl⟩, ⟨.char 'z', .command⟩] ⟨.char 'z', .ctrl⟩
      (by decide) (by decide)
  obtain ⟨rfl, -, hstep, -, -⟩ := holdest (Nat.le_refl 2)
  refine ⟨_, habc, rfl, rfl, rfl, outcomes, before, after, hbefore, hafter, hstep, ?_⟩
  cases hbefore
  cases hafter
  rfl

end Editor

end MarkupPad
