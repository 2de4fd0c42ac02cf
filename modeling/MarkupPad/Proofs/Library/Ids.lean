import Mathlib.Data.List.Forall2
import MarkupPad.Proofs.Library.Changes

/-!
# Sets of libraries up to the ids that are made

The ids of custom libraries are made for them, and are not those of the catalog.  Two sets that
differ in such ids only stay so, whatever ids are made from then on: a toggle asks for an id of the
catalog, which both sets have or neither.

    s.SameButIds s' → library ∈ catalog →
      (s.toggle library).2.SameButIds (s'.toggle library).2                   (SameButIds.toggle)
    s.SameButIds s' → library.SameButId library' →
      (s.push library).SameButIds (s'.push library')                            (SameButIds.push)
-/

namespace MarkupPad

namespace Library

/-- An id that no library of the catalog has. -/
def IsFreeId (id : Text) : Prop := ∀ library ∈ catalog, library.id ≠ id

/-- The same library, up to an id that the catalog leaves free. -/
def SameButId (a b : Library) : Prop :=
  a = b ∨ IsFreeId a.id ∧ IsFreeId b.id ∧ b = { a with id := b.id }

/-- The two have the same id of the catalog, or none. -/
theorem SameButId.id_eq_iff {a b library : Library} (h : a.SameButId b)
    (hlibrary : library ∈ catalog) : a.id = library.id ↔ b.id = library.id := by
  rcases h with rfl | ⟨ha, hb, -⟩
  · exact Iff.rfl
  · exact iff_of_false (Ne.symm (ha library hlibrary)) (Ne.symm (hb library hlibrary))

end Library

namespace LibrarySet

/-- The same libraries one by one, up to ids that the catalog leaves free. -/
def SameButIds (s s' : LibrarySet) : Prop :=
  List.Forall₂ Library.SameButId s.libraries s'.libraries

namespace SameButIds

variable {s s' : LibrarySet} {library library' : Library}

theorem contains_iff (h : s.SameButIds s') (hlibrary : library ∈ Library.catalog) :
    s.Contains library.id ↔ s'.Contains library.id := by
  unfold SameButIds at h
  unfold Contains ids
  generalize s.libraries = l, s'.libraries = l' at h ⊢
  induction h with
  | nil => exact Iff.rfl
  | @cons a b l l' hab _ ih =>
    rw [List.map_cons, List.map_cons, List.mem_cons, List.mem_cons, ih, eq_comm,
      hab.id_eq_iff hlibrary, eq_comm]

theorem erase (h : s.SameButIds s') (hlibrary : library ∈ Library.catalog) :
    (s.erase library.id).SameButIds (s'.erase library.id) := by
  refine List.rel_filter ?_ h
  intro a b hab
  simp only [decide_eq_true_eq, ne_eq, hab.id_eq_iff hlibrary]

theorem push (h : s.SameButIds s') (hlibrary : library.SameButId library') :
    (s.push library).SameButIds (s'.push library') :=
  List.rel_append h (.cons hlibrary .nil)

/-- **A library of the catalog comes or goes in both sets.** -/
theorem toggle (h : s.SameButIds s') (hlibrary : library ∈ Library.catalog) :
    (s.toggle library).2.SameButIds (s'.toggle library).2 := by
  by_cases hcontains : s.Contains library.id
  · have hcontains' := (h.contains_iff hlibrary).1 hcontains
    rw [LibrarySet.toggle, LibrarySet.toggle, if_pos hcontains, if_pos hcontains']
    exact h.erase hlibrary
  · have hcontains' := mt (h.contains_iff hlibrary).2 hcontains
    rw [LibrarySet.toggle, LibrarySet.toggle, if_neg hcontains, if_neg hcontains']
    exact h.push (.inl rfl)

end SameButIds

end LibrarySet

end MarkupPad
