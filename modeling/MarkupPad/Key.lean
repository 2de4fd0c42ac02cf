import MarkupPad.Text.Basic

/-!
# Keys and modifiers

A key press is a key with the modifiers held while it goes down.
-/

namespace MarkupPad

/-- The keys that a text surface reports. -/
inductive Key where
  | char (c : Char)
  | left | right | up | down | home | toEnd
  | enter | tab | escape | backspace | delete
  deriving Repr, DecidableEq

/-- The modifiers held, one bit each. -/
structure Modifiers where
  bits : UInt8
  deriving Repr, DecidableEq

namespace Modifiers

def none : Modifiers := ⟨0⟩
def ctrl : Modifiers := ⟨1⟩
def alt : Modifiers := ⟨2⟩
def shift : Modifiers := ⟨4⟩
/-- The Meta or Command key. -/
def command : Modifiers := ⟨8⟩

/-- The modifiers of both. -/
def union (a b : Modifiers) : Modifiers := ⟨a.bits ||| b.bits⟩

/-- Are all modifiers of `b` held? -/
def holds (a b : Modifiers) : Bool := a.bits &&& b.bits = b.bits

/-- Is no modifier held? -/
def isNone (a : Modifiers) : Bool := a.bits = 0

/-- The modifiers with their names, in the order in which they are written. -/
def named : List (Modifiers × String) :=
  [(ctrl, "Ctrl"), (alt, "Alt"), (shift, "Shift"), (command, "Meta")]

/-- The names of the modifiers held, with a plus between them. -/
def label (a : Modifiers) : String :=
  if a.isNone then "none"
  else "+".intercalate ((named.filter fun (m, _) => a.holds m).map (·.2))

end Modifiers

/-- A key that goes down, with the modifiers held. -/
structure KeyPress where
  key : Key
  modifiers : Modifiers
  deriving Repr, DecidableEq

namespace KeyPress

/-- A key without modifiers. -/
def plain (key : Key) : KeyPress := ⟨key, .none⟩

/-- The undo shortcut: `z` with Ctrl or Meta. -/
def isUndo (p : KeyPress) : Bool :=
  (p.modifiers.holds .ctrl || p.modifiers.holds .command) && p.key = .char 'z'

/-- The shortcut that duplicates a line: Down with Alt. -/
def isDuplicate (p : KeyPress) : Bool := p.modifiers.holds .alt && p.key = .down

/-- A press with Ctrl, Alt or Meta; such presses never insert text. -/
def isChord (p : KeyPress) : Bool :=
  p.modifiers.holds .ctrl || p.modifiers.holds .alt || p.modifiers.holds .command

end KeyPress

end MarkupPad
