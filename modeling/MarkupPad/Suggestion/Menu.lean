import MarkupPad.Buffer.Offset
import MarkupPad.Suggestion.Basic

/-!
# The menu of suggestions

The suggestions on offer with one of them highlighted.  The highlight moves around in a
circle, and a menu without entries is not shown.
-/

namespace MarkupPad

/-- The suggestions on offer and the index of the highlighted one. -/
structure Menu where
  items : List Suggestion
  index : Nat
  deriving Repr, DecidableEq

namespace Menu

/-! ## Algorithm -/

/-- The menu without entries. -/
def empty : Menu := ⟨[], 0⟩

/-- A menu with the first entry highlighted. -/
def ofList (items : List Suggestion) : Menu := ⟨items, 0⟩

/-- Is there anything on offer? -/
def isActive (m : Menu) : Bool := !m.items.isEmpty

/-- The highlighted suggestion. -/
def highlighted? (m : Menu) : Option Suggestion := m.items[m.index]?

/-- The highlight one entry down, from the last one to the first. -/
def next (m : Menu) : Menu :=
  if m.isActive then { m with index := (m.index + 1) % m.items.length } else m

/-- The highlight one entry up, from the first one to the last. -/
def prev? (m : Menu) : Option Menu :=
  if m.isActive then
    (Buffer.minus? (m.index + m.items.length) 1).map fun index =>
      { m with index := index % m.items.length }
  else some m

/-- The highlight one entry up, from the first one to the last. -/
def prev (m : Menu) : Menu := m.prev?.getD m

/-- The highlight at an index; `none` when there is no such entry. -/
def hover? (m : Menu) (index : Nat) : Option Menu :=
  if index < m.items.length then some { m with index := index } else none

end Menu

end MarkupPad
