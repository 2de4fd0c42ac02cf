import MarkupPad.Selection
import MarkupPad.Text.Utf8

/-!
# Bringing offsets down to where a buffer can be cut

Two offsets that come from outside may be anything.  Each of them is brought down to the end of the
text, if it lies past that, and from there byte by byte until a character begins.

    floorBoundary? t offset = some (Text.floorBoundary t offset)
    clamp? t start stop = some (Selection.clamp t start stop)
-/

namespace MarkupPad.Buffer

open Text

/-- Can the bytes be cut at an offset?  At both ends they can, and where a character begins. -/
def canCutAt (bytes : List UInt8) (offset : Nat) : Bool :=
  offset = 0 || offset = bytes.length || bytes[offset]?.any fun b => b.IsUTF8FirstByte

/-- The first boundary that is met going down from an offset; `none` when that leads below zero. -/
def floorFrom? (bytes : List UInt8) (offset : Nat) : Option Nat :=
  if canCutAt bytes offset then some offset
  else
    match offset with
    | 0 => none
    | offset + 1 => floorFrom? bytes offset

/-- The boundary that an offset is brought down to. -/
def floorBoundary? (t : Text) (offset : Nat) : Option Nat := floorFrom? t.utf8 (min offset (size t))

/-- The selection between two offsets, whichever of them is the first. -/
def clamp? (t : Text) (start stop : Nat) : Option Selection := do
  let (start, stop) := if start ≤ stop then (start, stop) else (stop, start)
  return ⟨← floorBoundary? t start, ← floorBoundary? t stop⟩

end MarkupPad.Buffer
