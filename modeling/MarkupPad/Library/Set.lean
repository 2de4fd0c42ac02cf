import MarkupPad.Library.Basic

/-!
# The libraries of a project

A project uses libraries in the order in which they were added, at most one of each id.

    (s.toggle l).1 = true ↔ ¬ s.Contains l.id
-/

namespace MarkupPad

/-- The libraries in use, in the order in which they were added. -/
structure LibrarySet where
  libraries : List Library
  deriving Repr, DecidableEq

namespace LibrarySet

/-! ## Algorithm -/

/-- No libraries. -/
def empty : LibrarySet := ⟨[]⟩

/-- The number of libraries. -/
def size (s : LibrarySet) : Nat := s.libraries.length

/-- The ids in order. -/
def ids (s : LibrarySet) : List Text := s.libraries.map Library.id

/-- A library of this id is in use. -/
def Contains (s : LibrarySet) (id : Text) : Prop := id ∈ s.ids

instance (s : LibrarySet) (id : Text) : Decidable (s.Contains id) :=
  inferInstanceAs (Decidable (_ ∈ _))

/-- The libraries of one kind, in order. -/
def ofKind (s : LibrarySet) (kind : LibraryKind) : List Library :=
  s.libraries.filter (·.kind = kind)

/-- One more library at the end. -/
def push (s : LibrarySet) (library : Library) : LibrarySet := ⟨s.libraries ++ [library]⟩

/-- The libraries of all other ids. -/
def erase (s : LibrarySet) (id : Text) : LibrarySet := ⟨s.libraries.filter (·.id ≠ id)⟩

/-- Removes the library of an id; tells whether there was one. -/
def remove (s : LibrarySet) (id : Text) : Bool × LibrarySet := (s.Contains id, s.erase id)

/-- Adds a library, or removes the one of its id; tells whether it was added. -/
def toggle (s : LibrarySet) (library : Library) : Bool × LibrarySet :=
  if s.Contains library.id then (false, s.erase library.id) else (true, s.push library)

/-- Toggles a built-in library. -/
def toggleCatalog (s : LibrarySet) (id : Text) : Except LibraryError (Bool × LibrarySet) := do
  return s.toggle (← Library.ofCatalog id)

/-- Adds the library at an address under an id that no other library has. -/
def addCustom (s : LibrarySet) (id name url : Text) (kind : LibraryKind)
    (reader : Url.Reader := Url.standard) : Except LibraryError (Library × LibrarySet) := do
  let library ← Library.custom id name url kind reader
  return (library, s.push library)

/-! ## Records -/

def toJson (s : LibrarySet) : Json :=
  .record [("libraries", .array (s.libraries.map Library.toJson))]

def ofJson? (json : Json) : Option LibrarySet := do
  match ← json.allFields? ["libraries"] with
  | [libraries] => return ⟨← (← libraries.items?).mapM Library.ofJson?⟩
  | _ => none

/-! ## Lemmas -/

theorem remove_fst {s : LibrarySet} {id : Text} : (s.remove id).1 = true ↔ s.Contains id := by
  simp [remove]

theorem toggle_fst {s : LibrarySet} {library : Library} :
    (s.toggle library).1 = true ↔ ¬ s.Contains library.id := by
  unfold toggle
  split <;> simp_all

theorem contains_erase {s : LibrarySet} {id other : Text} :
    (s.erase id).Contains other ↔ other ≠ id ∧ s.Contains other := by
  simp only [Contains, ids, erase, List.mem_map, List.mem_filter, decide_eq_true_eq]
  constructor
  · rintro ⟨l, ⟨h, h'⟩, rfl⟩
    exact ⟨h', l, h, rfl⟩
  · rintro ⟨h', l, h, rfl⟩
    exact ⟨l, ⟨h, h'⟩, rfl⟩

theorem contains_push {s : LibrarySet} {library : Library} {id : Text} :
    (s.push library).Contains id ↔ s.Contains id ∨ id = library.id := by
  simp [Contains, ids, push, eq_comm]

end LibrarySet

end MarkupPad
