import MarkupPad.Text.Order

/-!
# Tables in the order of their keys

A table is a list of entries with increasing keys.

    (insert t k v).find? k' = if k' = k then some v else t.find? k'      (find?_insert)
-/

namespace MarkupPad

/-- Entries in the order of their keys. -/
@[ext] structure Table (α : Type) where
  entries : List (Text × α)
  /-- The keys increase. -/
  sorted : entries.Pairwise fun a b => a.1 < b.1

namespace Table

open Text

variable {α : Type}

/-! ## Entries -/

/-- The value of the first entry with a key. -/
def findEntry? (key : Text) : List (Text × α) → Option α
  | [] => none
  | entry :: entries => if entry.1 = key then some entry.2 else findEntry? key entries

/-- An entry put in its place, in place of the entry with the same key. -/
def insertEntry (key : Text) (value : α) : List (Text × α) → List (Text × α)
  | [] => [(key, value)]
  | entry :: entries =>
    if key.comesBefore entry.1 then (key, value) :: entry :: entries
    else if entry.1 = key then (key, value) :: entries
    else entry :: insertEntry key value entries

theorem mem_insertEntry {entries : List (Text × α)} {key : Text} {value : α} {entry : Text × α}
    (h : entry ∈ insertEntry key value entries) : entry = (key, value) ∨ entry ∈ entries := by
  induction entries with
  | nil => exact .inl (List.mem_singleton.1 h)
  | cons first entries ih =>
    unfold insertEntry at h
    split at h
    · exact List.mem_cons.1 h
    · split at h
      · rcases List.mem_cons.1 h with hnew | hold
        · exact .inl hnew
        · exact .inr (List.mem_cons_of_mem _ hold)
      · rcases List.mem_cons.1 h with hfirst | hrest
        · exact .inr (hfirst ▸ List.mem_cons_self)
        · exact (ih hrest).imp_right (List.mem_cons_of_mem _)

/-- **An insertion keeps the order.** -/
theorem pairwise_insertEntry {entries : List (Text × α)}
    (h : entries.Pairwise fun a b => a.1 < b.1) (key : Text) (value : α) :
    (insertEntry key value entries).Pairwise fun a b => a.1 < b.1 := by
  induction h with
  | nil => exact List.pairwise_singleton _ _
  | @cons first entries hfirst hentries ih =>
    unfold insertEntry
    split
    · next hbefore =>
      have hlt := comesBefore_iff.1 hbefore
      refine .cons (fun entry hentry => ?_) (.cons hfirst hentries)
      rcases List.mem_cons.1 hentry with rfl | hentry
      · exact hlt
      · exact List.lt_trans hlt (hfirst entry hentry)
    · next hbefore =>
      have hle : ¬ key < first.1 := fun hlt => hbefore (comesBefore_iff.2 hlt)
      split
      · next heq =>
        subst heq
        exact .cons hfirst hentries
      · next hne =>
        have hlt : first.1 < key :=
          (Std.lt_trichotomy first.1 key).resolve_right (not_or.2 ⟨hne, hle⟩)
        refine .cons (fun entry hentry => ?_) ih
        rcases mem_insertEntry hentry with rfl | hold
        · exact hlt
        · exact hfirst entry hold

/-! ## Algorithm -/

/-- The table without entries. -/
def empty : Table α := ⟨[], .nil⟩

/-- The value of a key. -/
def find? (t : Table α) (key : Text) : Option α := findEntry? key t.entries

/-- The table with another value for a key. -/
def insert (t : Table α) (key : Text) (value : α) : Table α :=
  ⟨insertEntry key value t.entries, pairwise_insertEntry t.sorted key value⟩

/-- The table without a key. -/
def erase (t : Table α) (key : Text) : Table α :=
  ⟨t.entries.filter (·.1 ≠ key), t.sorted.filter _⟩

/-- The keys in order. -/
def keys (t : Table α) : List Text := t.entries.map (·.1)

/-- The table with entries put in one after the other. -/
def insertAll (t : Table α) (entries : List (Text × α)) : Table α :=
  entries.foldl (fun t (key, value) => t.insert key value) t

/-- The table of entries in any order; the last value of a key counts. -/
def ofList (entries : List (Text × α)) : Table α := empty.insertAll entries

/-! ## Lemmas -/

theorem findEntry?_insertEntry (key key' : Text) (value : α) (entries : List (Text × α)) :
    findEntry? key' (insertEntry key value entries) =
      if key' = key then some value else findEntry? key' entries := by
  induction entries with
  | nil => grind [insertEntry, findEntry?]
  | cons entry entries ih => grind [insertEntry, findEntry?]

/-- **An insertion changes the value of its key and of no other.** -/
theorem find?_insert (t : Table α) (key key' : Text) (value : α) :
    (t.insert key value).find? key' = if key' = key then some value else t.find? key' :=
  findEntry?_insertEntry key key' value t.entries

end Table

end MarkupPad
