/-!
# A bounded linear history

The history stands at a current entry, with older entries before it and the undone ones
after it.  A commit drops the undone entries; when there are too many entries the oldest
one goes.

    (h.commit d).2.reached = the last `capacity` entries of h.reached ++ [d]
    h.undo? = some h' → h'.reached ++ [h.current] = h.reached
-/

namespace MarkupPad

/-- Snapshots around the current one.  The older ones come newest first. -/
structure History (α : Type) where
  past : List α
  current : α
  undone : List α
  capacity : Nat
  /-- There is room for the current entry. -/
  capacity_pos : 0 < capacity
  deriving Repr, DecidableEq

namespace History

variable {α : Type}

/-! ## Algorithm -/

/-- The number of entries kept when nothing else is said. -/
def defaultCapacity : Nat := 50

/-- The history with a single entry.  There is always room for one. -/
def new (entry : α) (capacity : Nat) : History α := ⟨[], entry, [], max capacity 1, by omega⟩

/-- The entries up to and including the current one, oldest first. -/
def reached (h : History α) : List α := h.past.reverse ++ [h.current]

/-- How many entries are older than the current one. -/
def step (h : History α) : Nat := h.past.length

/-- The number of entries, the undone ones included. -/
def length (h : History α) : Nat := h.past.length + 1 + h.undone.length

/-- Makes an entry the newest, unless it equals the current one; tells whether it did. -/
def commit [DecidableEq α] (h : History α) (entry : α) : Bool × History α :=
  if h.current = entry then (false, h)
  else (true, { h with
    past := (h.current :: h.past).take (h.capacity - 1)
    current := entry
    undone := [] })

/-- One entry back; `none` at the oldest one. -/
def undo? (h : History α) : Option (History α) :=
  match h.past with
  | [] => none
  | entry :: past => some { h with
      past := past
      current := entry
      undone := h.current :: h.undone }

/-- The history with a single entry and the same capacity. -/
def reset (h : History α) (entry : α) : History α :=
  { h with past := [], current := entry, undone := [] }

end History

end MarkupPad
