import Mathlib.Data.List.DropRight
import MarkupPad.Proofs.History

/-!
# A history as a row of entries

All entries of a history stand in a row, the oldest first, and a step tells which is the current
one.  A commit cuts the row behind the current entry, adds one, and drops entries from the front as
long as there are too many; a step back moves the step and nothing else.  A row goes along with its
history, whatever is done to both.

    (h.change c).row = h.row.change c                                              (row_change)
    h.entries.take (h.step + 1) = h.reached                                      (take_entries)
    h.current ≠ entry →
      (h.commit entry).2.reached = (h.reached ++ [entry]).rtake h.capacity     (reached_commit)
    h.undo? = some h' → h'.reached = h.reached.dropLast                         (undo?_reached)
-/

namespace MarkupPad.History

variable {α : Type}

/-- A row of entries, oldest first, with the place of the current one. -/
structure Row (α : Type) where
  entries : List α
  step : Nat
  capacity : Nat

/-- What can be done to a history. -/
inductive Change (α : Type) where
  | commit (entry : α)
  | undo
  | reset (entry : α)

namespace Row

/-- The row with a single entry. -/
def new (entry : α) (capacity : Nat) : Row α := ⟨[entry], 0, max capacity 1⟩

/-- The entry at the step, if there is one. -/
def current? (r : Row α) : Option α := r.entries[r.step]?

/-- The entries without the oldest ones, as long as there are too many. -/
def dropOldest (capacity : Nat) : List α → List α
  | [] => []
  | entry :: entries =>
    if capacity < (entry :: entries).length then dropOldest capacity entries else entry :: entries

/-- Cuts the row behind the step and adds an entry, unless it equals the current one; tells whether
it did. -/
def commit [DecidableEq α] (r : Row α) (entry : α) : Bool × Row α :=
  if r.current? = some entry then (false, r)
  else
    let entries := dropOldest r.capacity (r.entries.take (r.step + 1) ++ [entry])
    (true, { r with entries := entries, step := entries.length - 1 })

/-- One step back; `none` at the oldest entry. -/
def undo? (r : Row α) : Option (Row α) :=
  if r.step = 0 then none else some { r with step := r.step - 1 }

/-- The row with a single entry and the same capacity. -/
def reset (r : Row α) (entry : α) : Row α := { r with entries := [entry], step := 0 }

/-- The row after a change.  At the oldest entry a step back changes nothing. -/
def change [DecidableEq α] (r : Row α) : Change α → Row α
  | .commit entry => (r.commit entry).2
  | .undo => r.undo?.getD r
  | .reset entry => r.reset entry

/-- What is dropped in turn are all that there is no room for. -/
theorem dropOldest_eq (capacity : Nat) (entries : List α) :
    dropOldest capacity entries = entries.rtake capacity := by
  induction entries with
  | nil => simp [dropOldest]
  | cons entry entries ih =>
    rw [dropOldest]
    by_cases hlong : capacity < (entry :: entries).length
    · have hlen : (entry :: entries).length - capacity = entries.length - capacity + 1 := by
        rw [List.length_cons] at hlong ⊢
        omega
      rw [if_pos hlong, ih, List.rtake, List.rtake, hlen, List.drop_succ_cons]
    · rw [if_neg hlong, List.rtake, Nat.sub_eq_zero_of_le (Nat.not_lt.1 hlong), List.drop_zero]

end Row

variable {h h' : History α} {entry : α}

/-! ## The entries in a row -/

/-- All entries, oldest first, the undone ones included. -/
def entries (h : History α) : List α := h.reached ++ h.undone

/-- The row of a history. -/
def row (h : History α) : Row α := ⟨h.entries, h.step, h.capacity⟩

theorem length_reached (h : History α) : h.reached.length = h.step + 1 := by
  simp [reached, step]

theorem length_entries (h : History α) : h.entries.length = h.length := by
  simp [entries, length_reached, step, length]

theorem take_entries (h : History α) : h.entries.take (h.step + 1) = h.reached := by
  rw [← length_reached, entries, List.take_left]

theorem getLast?_reached (h : History α) : h.reached.getLast? = some h.current := by
  simp [reached]

theorem current?_row (h : History α) : h.row.current? = some h.current := by
  have hlast := getLast?_reached h
  rw [List.getLast?_eq_getElem?, length_reached, Nat.add_sub_cancel] at hlast
  have hlt : h.step < h.reached.length := by
    rw [length_reached]
    omega
  show h.entries[h.step]? = some h.current
  rw [entries, List.getElem?_append_left hlt, hlast]

/-! ## Steps back -/

theorem undo?_reached (hu : h.undo? = some h') : h'.reached = h.reached.dropLast := by
  unfold undo? at hu
  split at hu
  · cases hu
  · next older past hp =>
    cases hu
    simp [reached, hp]

/-- A step back keeps every entry in its place. -/
theorem undo?_entries (hu : h.undo? = some h') : h'.entries = h.entries := by
  unfold undo? at hu
  split at hu
  · cases hu
  · next older past hp =>
    cases hu
    simp [entries, reached, hp]

/-- A step back moves the step and nothing else. -/
theorem undo?_row (h : History α) : h.row.undo? = h.undo?.map row := by
  cases hu : h.undo? with
  | none =>
    have hstep : h.row.step = 0 := undo?_eq_none_iff.1 hu
    rw [Row.undo?, if_pos hstep]
    rfl
  | some h' =>
    have hne : h.row.step ≠ 0 := fun hstep => by
      rw [undo?_eq_none_iff.2 hstep] at hu
      cases hu
    have hstep : h'.step = h.step - 1 := by
      have hlen := congrArg List.length (undo?_reached hu)
      rw [List.length_dropLast, length_reached, length_reached] at hlen
      omega
    rw [Row.undo?, if_neg hne, Option.map_some, row, row, undo?_entries hu, hstep, undo?_capacity hu]

/-! ## Commits -/

variable [DecidableEq α]

theorem commit_of_ne (hne : h.current ≠ entry) :
    h.commit entry = (true, (h.commit entry).2) := by
  rw [commit, if_neg hne]

/-- **A commit pushes an entry**, and what there is no room for goes at the other end. -/
theorem reached_commit (hne : h.current ≠ entry) :
    (h.commit entry).2.reached = (h.reached ++ [entry]).rtake h.capacity := by
  obtain ⟨room, hroom⟩ : ∃ room, h.capacity = room + 1 := ⟨h.capacity - 1, by
    have := h.capacity_pos
    omega⟩
  rw [commit, if_neg hne, List.rtake_eq_reverse_take_reverse]
  simp [reached, hroom]

theorem entries_commit (hne : h.current ≠ entry) :
    (h.commit entry).2.entries = (h.commit entry).2.reached := by
  rw [entries, commit, if_neg hne, List.append_nil]

/-- A commit cuts the row, adds an entry and drops the oldest ones. -/
theorem commit_row (h : History α) (entry : α) :
    h.row.commit entry = ((h.commit entry).1, (h.commit entry).2.row) := by
  by_cases he : h.current = entry
  · rw [Row.commit, current?_row, he, if_pos rfl, commit_of_eq he]
  · have hne : h.row.current? ≠ some entry := by
      rw [current?_row]
      exact fun hsome => he (Option.some.inj hsome)
    have hentries : Row.dropOldest h.row.capacity (h.row.entries.take (h.row.step + 1) ++ [entry]) =
        (h.commit entry).2.entries := by
      rw [Row.dropOldest_eq, entries_commit he, reached_commit he, ← take_entries]
      rfl
    have hstep : (h.commit entry).2.entries.length - 1 = (h.commit entry).2.step := by
      rw [entries_commit he, length_reached, Nat.add_sub_cancel]
    rw [Row.commit, if_neg hne, commit_of_ne he]
    simp only [hentries, hstep]
    show (true, (⟨_, _, h.capacity⟩ : Row α)) = (true, ⟨_, _, (h.commit entry).2.capacity⟩)
    rw [commit_capacity]

/-! ## Changes -/

/-- The history after a change.  At the oldest entry a step back changes nothing. -/
def change (h : History α) : Change α → History α
  | .commit entry => (h.commit entry).2
  | .undo => h.undo?.getD h
  | .reset entry => h.reset entry

/-- The history after some changes in turn. -/
def changeAll (h : History α) (changes : List (Change α)) : History α := changes.foldl change h

/-- **The row goes along with its history.** -/
theorem row_change (h : History α) (c : Change α) : (h.change c).row = h.row.change c := by
  cases c with
  | commit entry =>
    show (h.commit entry).2.row = (h.row.commit entry).2
    rw [commit_row]
  | undo =>
    show (h.undo?.getD h).row = h.row.undo?.getD h.row
    rw [undo?_row]
    cases h.undo? with
    | none => rfl
    | some h' => rfl
  | reset entry => rfl

theorem row_changeAll (h : History α) (changes : List (Change α)) :
    (h.changeAll changes).row = changes.foldl Row.change h.row := by
  induction changes generalizing h with
  | nil => rfl
  | cons c changes ih =>
    rw [List.foldl_cons, ← row_change]
    exact ih (h.change c)

end MarkupPad.History
