import MarkupPad.Settings.Table

/-!
# Tables are made of their entries

Entries in order that are inserted one after the other get the places that they had.  So a table
is the table of its entries.

    entries in order → (ofList entries).entries = entries                      (entries_ofList)
    ofList t.entries = t                                                       (ofList_entries)
-/

namespace MarkupPad.Table

open Text

variable {α : Type} {t : Table α} {entries : List (Text × α)} {key : Text}

/-- A key after all others gets the last place. -/
theorem insertEntry_of_lt (h : ∀ entry ∈ entries, entry.1 < key) (value : α) :
    insertEntry key value entries = entries ++ [(key, value)] := by
  induction entries with
  | nil => rfl
  | cons first entries ih =>
    rw [List.forall_mem_cons] at h
    have hbefore : ¬ comesBefore key first.1 := fun hlt =>
      List.lt_asymm h.1 (comesBefore_iff.1 hlt)
    have hne : first.1 ≠ key := fun heq => List.lt_irrefl key (heq ▸ h.1)
    rw [insertEntry, if_neg hbefore, if_neg hne, ih h.2, List.cons_append]

theorem entries_insertAll (h : (t.entries ++ entries).Pairwise fun a b => a.1 < b.1) :
    (t.insertAll entries).entries = t.entries ++ entries := by
  induction entries generalizing t with
  | nil => exact (List.append_nil _).symm
  | cons entry entries ih =>
    obtain ⟨key, value⟩ := entry
    have hbefore : ∀ before ∈ t.entries, before.1 < key := fun before hmem =>
      (List.pairwise_append.1 h).2.2 before hmem (key, value) List.mem_cons_self
    have hinsert : (t.insert key value).entries = t.entries ++ [(key, value)] :=
      insertEntry_of_lt hbefore value
    have hnext : ((t.insert key value).entries ++ entries).Pairwise fun a b => a.1 < b.1 := by
      rwa [hinsert, List.append_assoc, List.singleton_append]
    show ((t.insert key value).insertAll entries).entries = _
    rw [ih hnext, hinsert, List.append_assoc, List.singleton_append]

/-- **Entries in order are those of their table.** -/
theorem entries_ofList (h : entries.Pairwise fun a b => a.1 < b.1) :
    (ofList entries).entries = entries := entries_insertAll (t := empty) h

/-- **The entries of a table make it up again.** -/
theorem ofList_entries (t : Table α) : ofList t.entries = t := Table.ext (entries_ofList t.sorted)

end MarkupPad.Table
