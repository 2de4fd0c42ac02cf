import MarkupPad.History

/-!
# Histories that grow from a new one

Commits, steps back and fresh starts are all that happens to a history.  It never holds more
entries than it has room for.  A step back leads to the entry before the current one, and right
after a commit to the entry that was current before it.

    Grown h → h.length ≤ h.capacity                                     (Grown.length_le)
    h.undo? = some h' → h.reached[h.step - 1]? = some h'.current        (undo?_current)
    h.current ≠ entry → 2 ≤ h.capacity →
      ∃ h', (h.commit entry).2.undo? = some h' ∧ h'.current = h.current (undo?_commit)
-/

namespace MarkupPad.History

variable {α : Type} {h h' : History α} {entry : α}

/-! ## Steps back -/

theorem undo?_eq_none_iff : h.undo? = none ↔ h.step = 0 := by
  unfold undo? step
  cases h.past with
  | nil => simp
  | cons older past => simp

theorem undo?_capacity (hu : h.undo? = some h') : h'.capacity = h.capacity := by
  unfold undo? at hu
  split at hu
  · cases hu
  · cases hu
    rfl

/-- A step back drops no entry. -/
theorem undo?_length (hu : h.undo? = some h') : h'.length = h.length := by
  unfold undo? at hu
  split at hu
  · cases hu
  · next older past hp =>
    cases hu
    simp only [length, hp, List.length_cons]
    omega

/-- A step back leads to the entry before the current one. -/
theorem undo?_current (hu : h.undo? = some h') : h.reached[h.step - 1]? = some h'.current := by
  unfold undo? at hu
  split at hu
  · cases hu
  · next older past hp =>
    cases hu
    simp [reached, step, hp]

/-! ## Commits -/

variable [DecidableEq α]

theorem commit_of_eq (he : h.current = entry) : h.commit entry = (false, h) := by
  rw [commit, if_pos he]

theorem commit_capacity (h : History α) (entry : α) :
    (h.commit entry).2.capacity = h.capacity := by
  unfold commit
  split
  · rfl
  · rfl

/-- A commit drops what there is no room for. -/
theorem length_commit_le (hl : h.length ≤ h.capacity) :
    (h.commit entry).2.length ≤ h.capacity := by
  have hpos := h.capacity_pos
  unfold commit
  split
  · exact hl
  · simp only [length, List.length_take, List.length_cons, List.length_nil]
    omega

/-- A step back after a commit leads to the entry that was current before it, if there is room
for both. -/
theorem undo?_commit (hne : h.current ≠ entry) (hk : 2 ≤ h.capacity) :
    ∃ h', (h.commit entry).2.undo? = some h' ∧ h'.current = h.current := by
  obtain ⟨room, hroom⟩ : ∃ room, h.capacity - 1 = room + 1 := ⟨h.capacity - 2, by omega⟩
  rw [commit, if_neg hne]
  simp only [undo?, hroom, List.take_succ_cons]
  exact ⟨_, rfl, rfl⟩

/-! ## Growth -/

/-- The histories that commits, steps back and fresh starts lead to. -/
inductive Grown : History α → Prop where
  | new (entry : α) (capacity : Nat) : Grown (.new entry capacity)
  | commit {h : History α} (entry : α) : Grown h → Grown (h.commit entry).2
  | undo {h h' : History α} : Grown h → h.undo? = some h' → Grown h'
  | reset {h : History α} (entry : α) : Grown h → Grown (h.reset entry)

/-- **There are never more entries than there is room for.** -/
theorem Grown.length_le (hg : h.Grown) : h.length ≤ h.capacity := by
  induction hg with
  | new entry capacity =>
    show 1 ≤ max capacity 1
    omega
  | commit entry _ ih =>
    rw [commit_capacity]
    exact length_commit_le ih
  | undo _ hu ih => rwa [undo?_length hu, undo?_capacity hu]
  | @reset h entry _ _ => exact h.capacity_pos

/-- Where there is room for a single entry there is none to go back to. -/
theorem Grown.undo?_eq_none (hg : h.Grown) (hk : h.capacity = 1) : h.undo? = none := by
  have hl := hg.length_le
  rw [length] at hl
  rw [undo?_eq_none_iff, step]
  omega

end MarkupPad.History
