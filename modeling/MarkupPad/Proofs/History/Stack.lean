import Mathlib.Data.List.Chain
import MarkupPad.Proofs.History.Row

/-!
# A history is a bounded stack

The entries up to the current one are a stack that grows at its end.  A commit pushes an entry,
and the oldest one goes when there is no room for it; a step back pops one.  Neighbours always
differ, so every step back leads to another entry, and steps back after commits lead through the
entries that are kept.

    h.Grown → h.entries.IsChain (· ≠ ·)                                         (Grown.isChain)
    (h.current :: added).IsChain (· ≠ ·) → h.reached.length ≤ h.capacity →
      (h.changeAll (added.map .commit)).reached = (h.reached ++ added).rtake h.capacity
                                                                            (reached_commitAll)
    (h.changeAll (List.replicate i .undo)).undo?.map (·.current) = h.past[i]?
                                                                           (undo?_after_undos)
-/

namespace MarkupPad.History

variable {α : Type} {h h' : History α} {entry : α}

/-! ## The newest entries -/

theorem past_eq (h : History α) : h.past = h.reached.dropLast.reverse := by
  simp [reached]

/-- What is dropped early would be dropped later. -/
theorem rtake_rtake_append (l m : List α) (n : Nat) :
    (l.rtake n ++ m).rtake n = (l ++ m).rtake n := by
  simp only [List.rtake_eq_reverse_take_reverse, List.reverse_append, List.reverse_reverse,
    List.take_append, List.take_take]
  congr 3
  omega

/-- Where the newest of the kept ones is left out, one less is kept. -/
theorem reverse_dropLast_rtake (l : List α) (n : Nat) :
    (l.rtake n).dropLast.reverse = l.dropLast.reverse.take (n - 1) := by
  rw [← List.tail_reverse, List.rtake_eq_reverse_take_reverse, List.reverse_reverse,
    ← List.drop_one, List.drop_take, List.drop_one, List.tail_reverse]

variable [DecidableEq α]

/-! ## Neighbours -/

/-- **Neighbouring entries differ**, the undone ones included. -/
theorem Grown.isChain (hg : h.Grown) : h.entries.IsChain (· ≠ ·) := by
  induction hg with
  | new entry capacity => exact List.isChain_singleton _
  | @commit h entry _ ih =>
    by_cases he : h.current = entry
    · rwa [commit_of_eq he]
    · have hpushed : (h.reached ++ [entry]).IsChain (· ≠ ·) := by
        refine List.isChain_append.2 ⟨(List.isChain_append.1 ih).1, List.isChain_singleton _, ?_⟩
        rw [getLast?_reached]
        simpa using he
      rw [entries_commit he, reached_commit he, List.rtake]
      exact hpushed.drop _
  | undo _ hu ih => rwa [undo?_entries hu]
  | reset entry _ _ => exact List.isChain_singleton _

/-! ## Runs -/

theorem grown_change (hg : h.Grown) (c : Change α) : (h.change c).Grown := by
  cases c with
  | commit entry => exact .commit entry hg
  | undo =>
    unfold change
    cases hu : h.undo? with
    | none => exact hg
    | some h' => exact .undo hg hu
  | reset entry => exact .reset entry hg

theorem change_capacity (h : History α) (c : Change α) : (h.change c).capacity = h.capacity := by
  cases c with
  | commit entry => exact commit_capacity h entry
  | undo =>
    unfold change
    cases hu : h.undo? with
    | none => rfl
    | some h' => exact undo?_capacity hu
  | reset entry => rfl

theorem grown_changeAll (hg : h.Grown) (changes : List (Change α)) :
    (h.changeAll changes).Grown := by
  induction changes generalizing h with
  | nil => exact hg
  | cons c changes ih => exact ih (grown_change hg c)

theorem changeAll_capacity (h : History α) (changes : List (Change α)) :
    (h.changeAll changes).capacity = h.capacity := by
  induction changes generalizing h with
  | nil => rfl
  | cons c changes ih => exact (ih _).trans (change_capacity h c)

/-- Entries that differ from their neighbours are all pushed. -/
theorem reached_commitAll (hl : h.reached.length ≤ h.capacity) {added : List α}
    (hc : (h.current :: added).IsChain (· ≠ ·)) :
    (h.changeAll (added.map .commit)).reached = (h.reached ++ added).rtake h.capacity := by
  induction added generalizing h with
  | nil => simp [changeAll, List.rtake, Nat.sub_eq_zero_of_le hl]
  | cons entry added ih =>
    obtain ⟨hne, hc⟩ := List.isChain_cons_cons.1 hc
    have hpush := reached_commit hne
    have hcapacity := commit_capacity h entry
    have hcurrent : (h.commit entry).2.current = entry := by rw [commit, if_neg hne]
    have hlen : (h.commit entry).2.reached.length ≤ (h.commit entry).2.capacity := by
      rw [hpush, hcapacity, List.rtake, List.length_drop]
      omega
    have hrest := ih hlen (by rwa [hcurrent])
    rw [hpush, hcapacity, rtake_rtake_append, List.append_assoc] at hrest
    exact hrest

/-- Steps back lead through the older entries, the newest first, and then no further. -/
theorem undo?_after_undos (h : History α) (i : Nat) :
    (h.changeAll (List.replicate i .undo)).undo?.map (·.current) = h.past[i]? := by
  induction i generalizing h with
  | zero =>
    show h.undo?.map (·.current) = h.past[0]?
    unfold undo?
    cases h.past with
    | nil => rfl
    | cons older past => rfl
  | succ i ih =>
    have hstep : (h.change .undo).past[i]? = h.past[i + 1]? := by
      show (h.undo?.getD h).past[i]? = h.past[i + 1]?
      unfold undo?
      cases hp : h.past with
      | nil => simp [hp]
      | cons older past => rfl
    rw [← hstep, ← ih]
    rfl

/-! ## The stack -/

/-- The entries up to the current one are a stack with room for so many entries. -/
structure IsBoundedStack (room : Nat) (h : History α) : Prop where
  length_eq : h.length = h.entries.length
  reached_eq : h.reached = h.entries.take (h.step + 1)
  reached_ne_nil : h.reached ≠ []
  length_le : h.entries.length ≤ room
  step_lt : h.step < h.entries.length
  isChain : h.entries.IsChain (· ≠ ·)
  current_eq : h.reached.getLast? = some h.current

theorem Grown.isBoundedStack (hg : h.Grown) : h.IsBoundedStack h.capacity where
  length_eq := (length_entries h).symm
  reached_eq := (take_entries h).symm
  reached_ne_nil := by simp [reached]
  length_le := by
    rw [length_entries]
    exact hg.length_le
  step_lt := by
    rw [length_entries, length, step]
    omega
  isChain := hg.isChain
  current_eq := getLast?_reached h

/-- **A history is a bounded stack of entries**, whatever has been done to it, and so is the row
that goes along with it.  A commit pushes an entry, unless it is the last one already, and drops
all that was undone; a step back pops the last one, unless it is the only one; a fresh start leaves
one.  So steps back after commits lead through the committed entries from the newest to the oldest
that there is room for. -/
theorem history_is_bounded_stack (first : α) (capacity : Nat) (changes : List (Change α)) :
    let room := max capacity 1
    let h := (new first capacity).changeAll changes
    h.row = changes.foldl Row.change (.new first capacity) ∧ h.IsBoundedStack room ∧
    (∀ entry, h.reached.getLast? = some entry → h.commit entry = (false, h)) ∧
    (∀ entry, h.reached.getLast? ≠ some entry → ∃ h', h.commit entry = (true, h') ∧
      h'.reached = (h.reached ++ [entry]).rtake room ∧ h'.entries = h'.reached) ∧
    (h.reached.length = 1 → h.undo? = none ∧ h.change .undo = h) ∧
    (h.reached.length ≠ 1 → ∃ h', h.undo? = some h' ∧ h'.reached = h.reached.dropLast ∧
      h'.reached.getLast? = some h'.current ∧ h'.entries = h.entries) ∧
    (∀ entry, (h.reset entry).reached = [entry] ∧ (h.reset entry).entries = [entry]) ∧
    (∀ added, (first :: added).IsChain (· ≠ ·) → ∀ i,
      (((new first capacity).changeAll (added.map .commit)).changeAll
        (List.replicate i .undo)).undo?.map (·.current) =
          ((first :: added).dropLast.reverse.take (min added.length (room - 1)))[i]?) := by
  intro room h
  have hgrown : h.Grown := grown_changeAll (.new first capacity) changes
  have hroom : h.capacity = room := changeAll_capacity _ changes
  refine ⟨row_changeAll _ changes, hroom ▸ hgrown.isBoundedStack, ?same, ?pushed, ?only, ?popped,
    ?fresh, ?typed⟩
  case same =>
    intro entry he
    rw [getLast?_reached, Option.some.injEq] at he
    exact commit_of_eq he
  case pushed =>
    intro entry he
    rw [getLast?_reached, Ne, Option.some.injEq] at he
    exact ⟨(h.commit entry).2, commit_of_ne he, hroom ▸ reached_commit he, entries_commit he⟩
  case only =>
    intro hl
    rw [length_reached] at hl
    have hnone : h.undo? = none := undo?_eq_none_iff.2 (by omega)
    exact ⟨hnone, by rw [change, hnone]; rfl⟩
  case popped =>
    intro hl
    rw [length_reached] at hl
    have hsome : h.undo? ≠ none := fun hnone => hl (by rw [undo?_eq_none_iff.1 hnone])
    obtain ⟨h', hu⟩ := Option.ne_none_iff_exists'.1 hsome
    exact ⟨h', hu, undo?_reached hu, getLast?_reached h', undo?_entries hu⟩
  case fresh =>
    intro entry
    exact ⟨rfl, rfl⟩
  case typed =>
    intro added hc i
    have hall : (first :: added).dropLast.reverse.length ≤ added.length := by simp
    have hkept : (first :: added).dropLast.reverse.take (min added.length (room - 1)) =
        (first :: added).dropLast.reverse.take (room - 1) := by
      rw [Nat.min_comm, ← List.take_take, List.take_of_length_le hall]
    have hone : (new first capacity).reached.length ≤ (new first capacity).capacity :=
      Nat.le_max_right capacity 1
    rw [hkept, undo?_after_undos, past_eq, reached_commitAll hone hc, reverse_dropLast_rtake]
    rfl

/-- Where there is room for two entries, three are committed and the last one is taken back; then
no other is left. -/
theorem history_is_bounded_stack_with_room_for_two :
    [0, 1, 2, 3].IsChain (· ≠ ·) ∧ ∀ i,
      (((new 0 2).changeAll ([1, 2, 3].map .commit)).changeAll
        (List.replicate i .undo)).undo?.map (·.current) = [2][i]? := by
  have hc : [0, 1, 2, 3].IsChain (· ≠ ·) := by decide
  obtain ⟨-, -, -, -, -, -, -, htyped⟩ := history_is_bounded_stack 0 2 []
  exact ⟨hc, fun i => htyped [1, 2, 3] hc i⟩

end MarkupPad.History
