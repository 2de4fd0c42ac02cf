import MarkupPad.Text.Utf8

/-!
# Reading a buffer by offsets

The scanners of a buffer look at single bytes, count runs of bytes and cut the text at the
offsets they find.  A cut outside the text or inside a character, a byte past the end and
a difference below zero are not there: such a step yields `none`, and so does all that is
computed from it.

    runStart? (utf8 (t ++ r)) p (size t) = some (size (splitTrailing p t).1)    p an ASCII class
-/

namespace MarkupPad.Buffer

open Text

/-! ## Algorithm -/

/-- The distance between two offsets; `none` when it would be below zero. -/
def minus? (a b : Nat) : Option Nat := if b ≤ a then some (a - b) else none

/-- The offsets of a character in a text that begins at offset `pos`, in order. -/
def offsetsFrom (mark : Char) (pos : Nat) : Text → List Nat
  | [] => []
  | c :: t =>
    if c = mark then pos :: offsetsFrom mark (pos + c.utf8Size) t
    else offsetsFrom mark (pos + c.utf8Size) t

/-- The offset of the first such character. -/
def find? (mark : Char) (t : Text) : Option Nat := (offsetsFrom mark 0 t).head?

/-- The offset of the last such character. -/
def findLast? (mark : Char) (t : Text) : Option Nat := (offsetsFrom mark 0 t).getLast?

/-- The offset just past the last such character, or 0. -/
def afterLast (mark : Char) (t : Text) : Nat :=
  match findLast? mark t with
  | none => 0
  | some i => i + 1

/-- Where the longest run of bytes of the class that ends at an offset begins.  The run is
walked backwards. -/
def runStart? (bytes : List UInt8) (p : Char → Bool) : Nat → Option Nat
  | 0 => some 0
  | stop + 1 =>
    match bytes[stop]? with
    | none => none
    | some b => if byteIn p b then runStart? bytes p stop else some (stop + 1)

/-- The length of the longest run of bytes of the class that begins at an offset. -/
def runLength? (bytes : List UInt8) (p : Char → Bool) (start : Nat) : Option Nat :=
  if start ≤ bytes.length then some ((bytes.drop start).takeWhile (byteIn p)).length else none

/-- Is the byte at an offset in the class?  There may be no such byte. -/
def holdsAt (bytes : List UInt8) (p : Char → Bool) (i : Nat) : Bool := bytes[i]?.any (byteIn p)

end MarkupPad.Buffer
